import CommandShell.Options.Refusal

/-!
# Reading Command Lines

The words of a command line are read from left to right. A word with hyphens in front gives
options: `--name`, `--name=value`, or letters after a single hyphen, the last of which may have its
value attached. Other words are values of the option before them, subcommands, or operands; after
`--` all words are operands.

A value is checked when the next word is taken up, so that of two mistakes the one on the left is
reported, except that a word without meaning is reported first.
-/

namespace CommandShell.Options

/-- What has been read of a command line. -/
structure Reading where
  /-- What has been given, in order. -/
  given : List (Key × List String)
  /-- What was given last and has not been checked. -/
  pending : Option (Key × List String)
  /-- The option that the next word may be the value of. -/
  awaiting : Option String
  /-- All words are operands from here on. -/
  literal : Bool
  /-- The position of the next operand. -/
  position : Nat
  deriving Repr

/-- Why reading stops before the end. -/
inductive Stop where
  /-- Something is to be shown: the help text or the version. -/
  | shown (text : String)
  /-- The words are not accepted. -/
  | refused (refusal : Refusal)
  deriving Repr

namespace Reading

/-- Nothing has been read. -/
def start : Reading := ⟨[], none, none, false, 0⟩

/-- The keys that have been given. -/
def keys (r : Reading) : List Key :=
  r.given.map (·.1)

/-- Add values for a key to those it has. -/
def addValues (key : Key) (values : List String) :
    List (Key × List String) → List (Key × List String)
  | [] => [(key, values)]
  | (other, old) :: rest =>
    if other = key then (other, old ++ values) :: rest
    else (other, old) :: addValues key values rest

end Reading

namespace Interface

/-- The refusal of a mistake, with the usage for some keys. -/
def refuse (interface : Interface) (mistake : Mistake) (advice : List Advice)
    (given : List Key) : Refusal :=
  ⟨mistake, advice, some (interface.usage given)⟩

/-- What is wrong with a value for a key, if anything. -/
def checkValue (interface : Interface) (key : Key) (value : String) : Option Refusal :=
  let argument := interface.display key
  match interface.kindOf key with
  | .text => none
  | .path => if value.isEmpty then some ⟨.missingValue argument [], [], none⟩ else none
  | .number limit =>
    match Text.readUnsigned limit value.toList with
    | .ok _ => none
    | .error fault => some ⟨.unreadable value argument fault.message, [], none⟩
  | .choice choices =>
    if choices.any (·.name == value) then none
    else if value.isEmpty then some ⟨.missingValue argument choices, [], none⟩
    else
      let similar := (similarWords value (choices.map (·.name))).getLast?
      some ⟨.invalidChoice value argument choices, (similar.map .similarValue).toList, none⟩

/-- The key may be given more than once. -/
def isMany (interface : Interface) : Key → Bool
  | .option _ => false
  | .operand position => ((interface.operands[position]?).map (·.many)).getD false

/-- Take up a key with its values, and check them. What is not accepted leaves the key among those
given, unless it was given before. -/
def take (interface : Interface) (r : Reading) (key : Key) (values : List String) :
    Reading × Option Refusal :=
  if r.keys.contains key && !interface.isMany key then
    ({ r with given := r.given.filter (·.1 ≠ key) },
      some (interface.refuse (.repeated (interface.display key)) [] []))
  else
    ({ r with given := Reading.addValues key values r.given },
      values.findSome? (interface.checkValue key))

/-- Take up what is pending. -/
def settle (interface : Interface) (r : Reading) : Reading × Option Refusal :=
  let rest := { r with pending := none }
  match r.pending with
  | none => (rest, none)
  | some (key, []) =>
    (rest, some ⟨.missingValue (interface.display key) (interface.kindOf key).choices, [], none⟩)
  | some (key, values) => interface.take rest key values

/-- A reading that is not refused. -/
def accepted : Reading × Option Refusal → Except Stop Reading
  | (r, none) => .ok r
  | (_, some refusal) => .error (.refused refusal)

/-- Take up an option that has no value. -/
def takeFlag (interface : Interface) (process : String → Option String) (spec : OptionSpec)
    (long : Bool) (r : Reading) : Except Stop Reading := do
  let r ← accepted (interface.settle r)
  match spec.effect with
  | .showHelp => .error (.shown (interface.helpText process long))
  | .showVersion => .error (.shown interface.version)
  | .flag | .value .. => accepted (interface.take r (.option spec.long) [])

/-- Take up an option that has a value, which may be attached to it. -/
def takeOption (interface : Interface) (spec : OptionSpec) (attached : Option String)
    (r : Reading) : Except Stop Reading := do
  let r ← accepted (interface.settle r)
  match attached with
  | some value => accepted (interface.take r (.option spec.long) [value])
  | none =>
    return { r with pending := some (.option spec.long, []), awaiting := some spec.long }

/-- Refuse a long option that is not known. -/
def refuseLong (interface : Interface) (r : Reading) (name : String) : Refusal :=
  let (r, _) := interface.settle r
  let word := "--" ++ name
  match (similarWords name (interface.options.map (·.long))).getLast? with
  | some long =>
    let suggested := if r.keys.contains (.option long) then [] else [.option long]
    interface.refuse (.unknown word) [.similarArgument ("--" ++ long)] (r.keys ++ suggested)
  | none =>
    let advice := if interface.operands.isEmpty then [] else [.afterHyphens word]
    interface.refuse (.unknown word) advice r.keys

/-- Refuse a value that is attached to an option without one. The usage names the group once
something of it has been taken up. -/
def refuseAttached (interface : Interface) (r : Reading) (spec : OptionSpec) (value : String) :
    Refusal :=
  let keys := r.keys ++ [.option spec.long]
  let usage :=
    if r.keys.any interface.group.contains then interface.usageWithGroup keys
    else interface.usage keys
  ⟨.surplusValue value spec.display, [], some usage⟩

/-- Split a text at its first `=`. -/
def splitValue (text : List Char) : String × Option String :=
  let name := String.ofList (text.takeWhile (· != '='))
  match text.dropWhile (· != '=') with
  | [] => (name, none)
  | _ :: value => (name, some (String.ofList value))

/-- Read a word that begins with two hyphens, without them. -/
def readLong (interface : Interface) (process : String → Option String) (r : Reading)
    (text : List Char) : Except Stop Reading :=
  let (name, attached) := splitValue text
  match interface.optionNamed? name with
  | none => .error (.refused (interface.refuseLong r name))
  | some spec =>
    match spec.value?, attached with
    | some _, _ => interface.takeOption spec attached r
    | none, some value => .error (.refused (interface.refuseAttached r spec value))
    | none, none => interface.takeFlag process spec true r

/-- The value attached to a letter, if any; a `=` in front of it does not count. -/
def attachedValue : List Char → Option String
  | [] => none
  | '=' :: value => some (String.ofList value)
  | value => some (String.ofList value)

/-- Read the letters of a word that begins with one hyphen. -/
def readLetters (interface : Interface) (process : String → Option String) (r : Reading) :
    List Char → Except Stop Reading
  | [] => .ok r
  | letter :: rest =>
    match interface.optionLettered? letter with
    | none =>
      let word := String.ofList ['-', letter]
      let advice := if interface.operands.isEmpty then [] else [.afterHyphens word]
      .error (.refused (interface.refuse (.unknown word) advice []))
    | some spec =>
      match spec.value? with
      | some _ => interface.takeOption spec (attachedValue rest) r
      | none => do
        let r ← interface.takeFlag process spec false r
        interface.readLetters process r rest

/-- Refuse an operand for which there is no place. -/
def refuseOperand (interface : Interface) (r : Reading) (word : String) : Refusal :=
  let names := interface.subcommands.map (·.1)
  if r.literal && names.contains word then
    interface.refuse (.unknown word) [.beforeHyphens word] []
  else
    let similar := similarWords word names
    if similar.isEmpty then interface.refuse (.unknown word) [] []
    else interface.refuse (.unknownSubcommand word) [.similarSubcommands similar] []

/-- Read an operand. -/
def readOperand (interface : Interface) (r : Reading) (word : String) : Except Stop Reading :=
  let key := Key.operand r.position
  if r.position < interface.operands.length then do
    let isMany := interface.isMany key
    let r ←
      match r.pending with
      | some (other, values) =>
        if other = key then pure { r with pending := some (key, values ++ [word]) }
        else do
          let r ← accepted (interface.settle r)
          pure { r with pending := some (key, [word]) }
      | none => pure { r with pending := some (key, [word]) }
    return { r with position := if isMany then r.position else r.position + 1 }
  else .error (.refused (interface.refuseOperand r word))

/-- Read one word. -/
def readWord (interface : Interface) (process : String → Option String) (r : Reading)
    (word : String) : Except Stop Reading :=
  if r.literal then interface.readOperand r word
  else
    match word.toList with
    | ['-', '-'] => .ok { r with literal := true, awaiting := none }
    | '-' :: '-' :: text => interface.readLong process { r with awaiting := none } text
    | '-' :: letter :: letters =>
      interface.readLetters process { r with awaiting := none } (letter :: letters)
    | _ =>
      match r.awaiting with
      | some long =>
        .ok { r with pending := some (.option long, [word]), awaiting := none }
      | none => interface.readOperand r word

/-- A word is taken for a subcommand where it could be an operand. -/
def isSubcommand (interface : Interface) (r : Reading) (word : String) : Bool :=
  !r.literal && r.awaiting.isNone && (interface.subcommands.map (·.1)).contains word

/-- Read words up to the end or to a subcommand, which is given with the words after it. -/
def readWords (interface : Interface) (process : String → Option String) :
    Reading → List String → Except Stop (Reading × Option (String × List String))
  | r, [] => .ok (r, none)
  | r, word :: rest =>
    if interface.isSubcommand r word then .ok (r, some (word, rest))
    else do
      let r ← interface.readWord process r word
      interface.readWords process r rest

/-- Take up the values that process variables give to options. -/
def takeVariables (interface : Interface) (process : String → Option String) (r : Reading) :
    List OptionSpec → Except Stop Reading
  | [] => .ok r
  | spec :: rest =>
    match spec.variableName.bind process with
    | none => interface.takeVariables process r rest
    | some value =>
      if r.keys.contains (.option spec.long) then interface.takeVariables process r rest
      else do
        let r ← accepted (interface.take r (.option spec.long) [value])
        interface.takeVariables process r rest

/-- The keys among `given` that a key excludes. -/
def conflictsOf (interface : Interface) (given : List Key) (key : Key) : List Key :=
  given.filter fun other =>
    interface.exclusive.contains (key, other) || interface.exclusive.contains (other, key)

/-- The first conflict among what has been given. -/
def conflict? (interface : Interface) (r : Reading) : Option Refusal :=
  r.keys.findSome? fun key =>
    match interface.conflictsOf r.keys key with
    | [] => none
    | other :: others =>
      let mistake := .conflict (interface.display key) (interface.display other)
      some (interface.refuse mistake [] (r.keys.filter (!(other :: others).contains ·)))

/-- The complaint that operands are missing. -/
def missing? (interface : Interface) (r : Reading) : Option Refusal :=
  let keys := (List.range interface.operands.length).map Key.operand
  let missing := keys.filter fun key => interface.isRequired key && !r.keys.contains key
  if missing.isEmpty then none
  else
    some (interface.refuse (.missing (missing.map interface.display)) [] (r.keys ++ missing))

/-- Check what has been given as a whole. -/
def complete (interface : Interface) (process : String → Option String) (r : Reading) :
    Except Stop (List (Key × List String)) := do
  let r ← accepted (interface.settle r)
  let r ← interface.takeVariables process r interface.options
  match (interface.conflict? r).or (interface.missing? r) with
  | some refusal => .error (.refused refusal)
  | none => return r.given

end Interface

end CommandShell.Options
