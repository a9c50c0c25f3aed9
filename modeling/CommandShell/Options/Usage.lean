import CommandShell.Options.Interface
import CommandShell.Text.ControlSequence
import CommandShell.Text.Escaped

/-!
# Usage and Help

How a command is used, in one line, and its help text. The line for a message that arises after
some options have been given names those; otherwise it only says that there are options.

The help text has a short form, with an entry on one line, and a long form, with an entry on
several lines, which is used where there is something to say about the choices for a value. The
values of process variables are shown in it without control sequences.
-/

namespace CommandShell.Options

/-- Join words with spaces. -/
def spaced (words : List String) : String :=
  " ".intercalate words

/-- Blanks up to a given width. -/
def padding (width : Nat) (text : String) : String :=
  String.ofList (List.replicate (width - text.length) ' ')

namespace Interface

/-- There are options besides those for the help text and the version. -/
def hasOptions (interface : Interface) : Bool :=
  interface.options.any fun spec =>
    match spec.effect with
    | .flag | .value .. => true
    | .showHelp | .showVersion => false

/-- The operands in order, in angle brackets if they are required or among `given`. -/
def operandUsage (interface : Interface) (given : List Key) : List String :=
  interface.operands.mapIdx fun position spec =>
    spec.displayAs (spec.required || given.contains (.operand position))

/-- The options among some keys. -/
def optionUsage (interface : Interface) (given : List Key) : List String :=
  given.filterMap fun
    | .option long => (interface.optionNamed? long).map (·.display)
    | .operand _ => none

/-- The line that says how a command is used, once the keys `given` have been. -/
def usage (interface : Interface) (given : List Key) : String :=
  let words :=
    if given.isEmpty then
      (if interface.hasOptions then ["[OPTIONS]"] else []) ++ interface.operandUsage [] ++
        (if interface.subcommands.isEmpty then [] else ["[COMMAND]"])
    else interface.optionUsage given ++ interface.operandUsage given
  "Usage: " ++ spaced (interface.name :: words)

/-- The members of the group, as alternatives. -/
def groupUsage (interface : Interface) : String :=
  "<" ++ "|".intercalate (interface.group.map interface.displayBare) ++ ">"

/-- The line that says how a command is used when its group has been given besides the keys
`given`: the group stands for all its members. -/
def usageWithGroup (interface : Interface) (given : List Key) : String :=
  let isSingle (key : Key) : Bool := !interface.group.contains key
  let operands := (List.range interface.operands.length).filterMap fun position =>
    if isSingle (.operand position) then (interface.operandUsage given)[position]? else none
  let words := interface.optionUsage (given.filter isSingle) ++ interface.groupUsage :: operands
  "Usage: " ++ spaced (interface.name :: words)

end Interface

/-- A line of the help text. -/
structure HelpLine where
  /-- The blanks at its beginning. -/
  indent : String
  /-- The title or the names that it begins with, if any; they are set off from the rest, so that
  no control sequence reaches into them. -/
  heading : String
  /-- The rest of the line. -/
  text : String
  deriving DecidableEq, Repr

namespace HelpLine

/-- A line without a heading. -/
def plain (text : String) : HelpLine := ⟨"", "", text⟩

/-- The text of some lines without control sequences; `before` is what stands between the last
heading and these lines. -/
def render (before : String) : List HelpLine → String
  | [] => Text.withoutSequences before
  | line :: rest =>
    if line.heading.isEmpty then render (before ++ line.indent ++ line.text ++ "\n") rest
    else
      Text.withoutSequences (before ++ line.indent) ++ line.heading ++
        render (line.text ++ "\n") rest

end HelpLine

/-- What is said about an option or an operand. -/
structure HelpEntry where
  /-- The blanks before its names. -/
  indent : String
  /-- Its names. -/
  heading : String
  /-- What it does, with notes on its value. -/
  text : String
  deriving DecidableEq, Repr

/-- A text whose further lines begin at a margin. -/
def hanging (margin text : String) : String :=
  text.replace "\n" ("\n" ++ margin)

/-- Entries of a section in the short form, with what they say lined up. -/
def aligned (entries : List HelpEntry) : List HelpLine :=
  let size (entry : HelpEntry) : Nat := entry.indent.length + entry.heading.length
  let width := entries.foldl (fun width entry => max width (size entry)) 0 + 2
  let margin := padding width ""
  entries.map fun entry =>
    let gap := padding (width - entry.indent.length) entry.heading
    ⟨entry.indent, entry.heading, gap ++ hanging margin entry.text⟩

/-- A value as it is shown for what holds by default. -/
def shownDefault (text : String) : String :=
  if text.any Char.isWhitespace then Text.quoted text else text

/-- The choices for a value, as they are named after the help for it. -/
def choiceNote (choices : List Choice) : String :=
  "[possible values: " ++ ", ".intercalate (choices.map (·.name)) ++ "]"

/-- What is said about the value of an option, after its help. -/
def OptionSpec.notes (process : String → Option String) (spec : OptionSpec) : List String :=
  let source := spec.variableName.map fun name =>
    "[env: " ++ name ++ "=" ++ (process name).getD "" ++ "]"
  let byDefault := spec.byDefault.map fun text => s!"[default: {shownDefault text}]"
  let choices :=
    if spec.choices.isEmpty then none
    else some (choiceNote spec.choices)
  [source, byDefault, choices].filterMap id

/-- The names of an option at the beginning of its entry. -/
def OptionSpec.heading (spec : OptionSpec) : String :=
  match spec.short with
  | some letter => s!"-{letter}, {spec.display}"
  | none => spec.display

/-- The blanks before the names of an option; they leave room for the letter. -/
def OptionSpec.indent (spec : OptionSpec) : String :=
  if spec.short.isSome then "  " else "      "

/-- The entry of an option in the short form. -/
def OptionSpec.shortEntry (process : String → Option String) (spec : OptionSpec) : HelpEntry :=
  ⟨spec.indent, spec.heading, spaced (spec.help :: spec.notes process)⟩

/-- The entry of an operand in the short form. -/
def OperandSpec.shortEntry (spec : OperandSpec) : HelpEntry :=
  let choices := spec.kind.choices
  let notes := if choices.isEmpty then [] else [choiceNote choices]
  ⟨"  ", spec.display, spaced (spec.help :: notes)⟩

/-- The margin of the texts of entries in the long form. -/
def longMargin : String := "          "

/-- The lines of an entry in the long form, from its paragraphs. -/
def longLines (indent heading : String) (paragraphs : List String) : List HelpLine :=
  ⟨indent, heading, ""⟩ ::
    paragraphs.map fun text => .plain (longMargin ++ hanging longMargin text)

/-- The entry of an option in the long form. -/
def OptionSpec.longEntry (process : String → Option String) (spec : OptionSpec) : List HelpLine :=
  let notes := spec.notes process
  let rest := if notes.isEmpty then [] else "" :: notes
  longLines spec.indent spec.heading (spec.help :: rest)

/-- The entry of an operand in the long form. -/
def OperandSpec.longEntry (spec : OperandSpec) : List HelpLine :=
  let choices := spec.kind.choices
  let width := choices.foldl (fun width choice => max width choice.name.length) 0
  let lines := choices.map fun choice =>
    .plain s!"{longMargin}- {choice.name}:{padding width choice.name} {choice.help}"
  let rest :=
    if choices.isEmpty then [] else [.plain "", .plain (longMargin ++ "Possible values:")] ++ lines
  longLines "  " spec.display [spec.help] ++ rest

/-- A section of the help text; one without entries is left out. -/
def helpSection (title : String) (lines : List HelpLine) : List HelpLine :=
  if lines.isEmpty then [] else .plain "" :: ⟨"", title ++ ":", ""⟩ :: lines

/-- Entries of several lines with blank lines between them. -/
def separated (entries : List (List HelpLine)) : List HelpLine :=
  [.plain ""].intercalate entries

namespace Interface

/-- There is something to say about the choices for an operand. -/
def hasLongHelp (interface : Interface) : Bool :=
  interface.operands.any fun spec => spec.kind.choices.any (!·.help.isEmpty)

/-- What the help option says about itself, if there are two forms of the help text. -/
def describeHelp (interface : Interface) (long : Bool) (spec : OptionSpec) : OptionSpec :=
  match spec.effect with
  | .showHelp =>
    if interface.hasLongHelp then
      { spec with
        help := spec.help ++
          (if long then " (see a summary with '-h')" else " (see more with '--help')") }
    else spec
  | _ => spec

/-- The help text of a command; `long` asks for the long form. -/
def helpText (interface : Interface) (process : String → Option String) (long : Bool) : String :=
  let options := interface.options.map (interface.describeHelp long)
  let isLong := long && interface.hasLongHelp
  let operandLines :=
    if isLong then separated (interface.operands.map (·.longEntry))
    else aligned (interface.operands.map (·.shortEntry))
  let optionLines :=
    if isLong then separated (options.map (·.longEntry process))
    else aligned (options.map (·.shortEntry process))
  let commands := interface.subcommands.map fun (name, help) => ⟨"  ", name, help⟩
  let lines := [.plain interface.about, .plain "", .plain (interface.usage [])] ++
    helpSection "Commands" (aligned commands) ++
    helpSection "Arguments" operandLines ++ helpSection "Options" optionLines
  HelpLine.render "" lines

end Interface

end CommandShell.Options
