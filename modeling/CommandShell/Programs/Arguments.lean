/-!
# Arguments of Standard Programs

The options and operands of standard programs. Options are letters after a hyphen, several of which
may stand together, or long names after two hyphens, which may be shortened as long as they are
unique; the value of an option is attached to it or is the next argument. What stands after `--`
is an operand, and so is a single hyphen.
-/

namespace CommandShell.Programs

/-- What can stand after an option. -/
inductive FlagValue where
  /-- Nothing. -/
  | never
  /-- A value that has to be there. -/
  | always
  /-- A value that is attached to the option, or nothing. -/
  | attached
  deriving DecidableEq, Repr

/-- An option of a standard program. -/
structure Flag where
  /-- Its letter. -/
  letter : Char
  /-- Its long name; empty if it has none. -/
  long : String
  /-- Its value. -/
  value : FlagValue
  deriving DecidableEq, Repr

/-- Options without and with values, by their letters; some of them have long names besides. -/
def flagsOf (plain valued : String) (names : List (Char × String)) : List Flag :=
  let flag (value : FlagValue) (letter : Char) : Flag :=
    ⟨letter, (names.lookup letter).getD "", value⟩
  plain.toList.map (flag .never) ++ valued.toList.map (flag .always)

/-- Options whose values are attached to them, by their letters and long names. -/
def flagsAttached (names : List (Char × String)) : List Flag :=
  names.map fun (letter, long) => ⟨letter, long, .attached⟩

/-- The options and operands that were given. -/
structure Arguments where
  /-- The letters of the options, with their values. -/
  given : List (Char × String)
  /-- The operands. -/
  operands : List String
  deriving DecidableEq, Repr

namespace Arguments

/-- The option is given. -/
def has (arguments : Arguments) (letter : Char) : Bool :=
  arguments.given.any (·.1 == letter)

/-- The value of the last option with a letter. -/
def value? (arguments : Arguments) (letter : Char) : Option String :=
  (arguments.given.reverse.find? (·.1 == letter)).map (·.2)

/-- The values of all options with a letter. -/
def values (arguments : Arguments) (letter : Char) : List String :=
  (arguments.given.filter (·.1 == letter)).map (·.2)

/-- The last of some options that is given. -/
def last? (arguments : Arguments) (letters : List Char) : Option Char :=
  (arguments.given.reverse.find? fun (letter, _) => letters.contains letter).map (·.1)

/-- Add an option in front. -/
def adding (letter : Char) (value : String) (arguments : Arguments) : Arguments :=
  { arguments with given := (letter, value) :: arguments.given }

end Arguments

/-- The option with a long name, which may be shortened, or what is wrong with the name. -/
def longFlag (flags : List Flag) (name : String) : Except String Flag :=
  let named := flags.filter (!·.long.isEmpty)
  match named.find? (·.long == name), named.filter (·.long.startsWith name) with
  | some flag, _ | none, [flag] => .ok flag
  | none, [] => .error s!"unrecognized option '--{name}'"
  | none, _ => .error s!"option '--{name}' is ambiguous"

/-- The options that the letters of one argument give. If the last one needs a value that is not
attached, it is given without one. -/
def readCluster (flags : List Flag) :
    List Char → Except String (List (Char × String) × Option Char)
  | [] => .ok ([], none)
  | letter :: rest =>
    match flags.find? (·.letter == letter) with
    | none => .error s!"invalid option -- '{letter}'"
    | some flag =>
      match flag.value, rest with
      | .never, _ =>
        (readCluster flags rest).map fun (others, last) => ((letter, "") :: others, last)
      | .always, [] => .ok ([], some letter)
      | _, _ => .ok ([(letter, String.ofList rest)], none)

/-- Read the options and operands of a program, or tell what is wrong with them. `mixed` tells that
options may stand after operands. `fuel` bounds the number of arguments. -/
def readArguments (flags : List Flag) (mixed : Bool) :
    (fuel : Nat) → List String → Except String Arguments
  | 0, _ | _, [] => .ok ⟨[], []⟩
  | fuel + 1, arg :: rest =>
    let goOn := readArguments flags mixed fuel
    match arg.toList with
    | ['-', '-'] => .ok ⟨[], rest⟩
    | '-' :: '-' :: text => do
      let name := text.takeWhile (· != '=')
      let flag ← longFlag flags (String.ofList name)
      match flag.value, text.drop name.length, rest with
      | .never, [], _ | .attached, [], _ => return (← goOn rest).adding flag.letter ""
      | .never, _ :: _, _ => .error s!"option '--{flag.long}' doesn't allow an argument"
      | _, _ :: value, _ => return (← goOn rest).adding flag.letter (String.ofList value)
      | .always, [], [] => .error s!"option '--{flag.long}' requires an argument"
      | .always, [], value :: rest => return (← goOn rest).adding flag.letter value
    | '-' :: letter :: letters => do
      let (options, last) ← readCluster flags (letter :: letters)
      let arguments ← match last, rest with
        | none, _ => goOn rest
        | some letter, [] => .error s!"option requires an argument -- '{letter}'"
        | some letter, value :: rest => (goOn rest).map (·.adding letter value)
      return { arguments with given := options ++ arguments.given }
    | _ =>
      if mixed then
        (goOn rest).map fun arguments => { arguments with operands := arg :: arguments.operands }
      else .ok ⟨[], arg :: rest⟩

/-- The options and operands of a program. -/
def Arguments.read (flags : List Flag) (args : List String) : Except String Arguments :=
  readArguments flags true args.length args

/-- The options and operands of a program whose options stand before its operands. -/
def Arguments.readLeading (flags : List Flag) (args : List String) : Except String Arguments :=
  readArguments flags false args.length args

end CommandShell.Programs
