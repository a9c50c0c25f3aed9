import CommandShell.Programs.Script.Arithmetic
import CommandShell.Programs.Script.Glob
import CommandShell.Programs.Script.Interpreter

/-!
# Expansion of Words

What the words of a command become when it is run. The parts of a word are replaced by their
values; values outside of quotes are split into fields; fields with signs that stand for other
characters become the names of files. A word that may not be split, such as the value of an
assignment, becomes one text.
-/

namespace CommandShell.Programs.Script

/-- A piece of a word that has been expanded but not split. -/
inductive Atom where
  /-- A character; `splits` tells that it comes from a value outside of quotes. -/
  | glyph (glyph : Glyph) (splits : Bool)
  /-- There is a field here, even if it is empty. -/
  | present
  /-- One field ends here, and another one begins. -/
  | boundary
  deriving DecidableEq, Repr

namespace Atom

/-- The atoms of a value. -/
def ofValue (quoted : Bool) (text : String) : List Atom :=
  let glyphs := text.toList.map fun c => .glyph ⟨c, quoted⟩ (!quoted)
  if quoted then .present :: glyphs else glyphs

/-- The characters of some atoms, for a word that is not split. -/
def glyphs (atoms : List Atom) : List Glyph :=
  atoms.filterMap fun
    | .glyph one _ => some one
    | .boundary => some ⟨' ', true⟩
    | .present => none

/-- The text of some atoms, for a word that is not split. -/
def text (atoms : List Atom) : String :=
  String.ofList ((glyphs atoms).map (·.char))

end Atom

/-- The character separates fields as a blank does: several in a row are like one. -/
def isFieldBlank (c : Char) : Bool := c = ' ' || c = '\t' || c = '\n'

/-- Split atoms into fields: `current` is the field being put together, last character first, if
there is one, and `gap` tells that a blank has just ended one. -/
def fields (separators : List Char) (current : Option (List Glyph)) (gap : Bool) :
    List Atom → List (List Glyph)
  | [] => current.toList.map List.reverse
  | .present :: rest => fields separators (some (current.getD [])) false rest
  | .boundary :: rest => current.toList.map List.reverse ++ fields separators none false rest
  | .glyph glyph splits :: rest =>
    if splits && separators.contains glyph.char then
      if isFieldBlank glyph.char then
        match current with
        | some field => field.reverse :: fields separators none true rest
        | none => fields separators none gap rest
      else if gap && current.isNone then fields separators none false rest
      else (current.getD []).reverse :: fields separators none false rest
    else fields separators (some (glyph :: current.getD [])) false rest

/-- The value of a parameter that is a number or a sign. -/
def signValue? (state : Interpreter) (name : String) : Option String :=
  match name with
  | "?" => some (toString state.lastCode.toNat)
  | "$" => some (toString Interpreter.ownProcess)
  | "#" => some (toString state.arguments.length)
  | "-" => some state.shownOptions
  | "!" => state.jobs.head?.map fun job => toString job.1
  | "0" => some state.name
  | _ =>
    match name.toNat? with
    | some position => state.arguments[position - 1]?
    | none => none

/-- The value of a parameter, without those that stand for all arguments. -/
def value? (state : Interpreter) (name : String) : Option String :=
  if Text.isIdentifier name.toList then state.binding? name else signValue? state name

/-- The atoms of a parameter that stands for all arguments. -/
def argumentAtoms (state : Interpreter) (name : String) (quoted : Bool) : List Atom :=
  if name = "*" && quoted then
    let separator := match state.binding? "IFS" with
      | some text => String.ofList (text.toList.take 1)
      | none => " "
    Atom.ofValue true (separator.intercalate state.arguments)
  else [Atom.boundary].intercalate (state.arguments.map (Atom.ofValue quoted))

/-- The value without a beginning that fits a pattern, the shortest or the longest one. -/
def withoutPrefix (longest : Bool) (pattern : List Wild) (value : List Char) : List Char :=
  let counts := List.range (value.length + 1)
  let counts := if longest then counts.reverse else counts
  match counts.find? fun n => fits pattern (value.take n) with
  | some n => value.drop n
  | none => value

/-- The value without an end that fits a pattern, the shortest or the longest one. -/
def withoutSuffix (longest : Bool) (pattern : List Wild) (value : List Char) : List Char :=
  let counts := List.range (value.length + 1)
  let counts := if longest then counts else counts.reverse
  match counts.find? fun n => fits pattern (value.drop n) with
  | some n => value.take n
  | none => value

/-- Drop the newlines at the end of what commands wrote. -/
def withoutLastNewlines (bytes : Bytes) : Bytes :=
  ((bytes.filter (· != 0)).reverse.dropWhile (· == Input.newline)).reverse

/-- What commands write when they are run in a subshell. -/
def captureOutput (run : List Command → Run Unit) (body : List Command) : Run String := do
  let sink ← Run.newSink
  let descriptors := (← get).descriptors
  Run.connect 1 (some (.sink sink))
  let code ← Run.isolated (run body)
  modify fun state => { state with descriptors, captured := some code }
  return lossyText (withoutLastNewlines (← Run.takeSink sink))

/-- The value of an arithmetic expression. -/
def evaluateArithmetic (text : String) : Run String := do
  let state ← get
  let result := do (← Arith.parse text.toList).evaluate state.binding? []
  match result with
  | .error fault => Run.fail (fault.message text)
  | .ok (n, assigned) => do
    assigned.reverse.forM fun (name, value) => Run.assign name value
    return toString n

/-- The complaint that a parameter has no value. -/
def insisted (name : String) (empty : Bool) (message : String) : String :=
  let usual := if empty then "parameter not set or null" else "parameter not set"
  s!"{name}: {if message.isEmpty then usual else message}"

/-- The directory that a tilde stands for together with the name after it. -/
def homeOf? (state : Interpreter) (name : String) : Option String :=
  match name with
  | "" => some ((state.binding? "HOME").getD "~")
  | "root" => some "/root"
  | _ => none

/-- Replace the tilde at the beginning of a text that is not quoted; `isWhole` tells that the word
ends with it. -/
def homeParts (state : Interpreter) (isWhole : Bool) (text : List Char) : List Part :=
  match text with
  | '~' :: rest =>
    let name := rest.takeWhile (· != '/')
    let after := rest.drop name.length
    match homeOf? state (String.ofList name), isWhole || !after.isEmpty with
    | some path, true => [.text path.toList true, .text after false]
    | _, _ => [.text text false]
  | _ => [.text text false]

/-- Replace the tilde at the beginning of a word. -/
def withHome (state : Interpreter) : Word → Word
  | .text text false :: others => homeParts state others.isEmpty text ++ others
  | word => word

/-- Replace the tildes at the beginning of a value and after its colons; `isFirst` tells that the
value begins here. -/
def withHomes (state : Interpreter) (isFirst : Bool) : Word → Word
  | .text text false :: others =>
    let pieces := (String.ofList text).splitOn ":"
    let parts := pieces.zipIdx.map fun (piece, i) =>
      let isWhole := i + 1 < pieces.length || others.isEmpty
      if isFirst || i != 0 then homeParts state isWhole piece.toList
      else [.text piece.toList false]
    [Part.text [':'] false].intercalate parts ++ withHomes state false others
  | part :: others => part :: withHomes state false others
  | [] => []

/-- Expand the parts of a word; `run` runs commands whose output is asked for, and `fuel` bounds
how deep words stand in words. -/
def expand (run : List Command → Run Unit) : (fuel : Nat) → Word → Run (List Atom)
  | 0, _ => pure []
  | _, [] => pure []
  | fuel + 1, part :: rest => do
    let atoms ← match part with
      | .text chars quoted =>
        let glyphs := chars.map fun c => Atom.glyph ⟨c, quoted⟩ false
        pure (if quoted then .present :: glyphs else glyphs)
      | .output body quoted => pure (Atom.ofValue quoted (← captureOutput run body))
      | .arithmetic expression quoted => do
        let text := Atom.text (← expand run fuel expression)
        pure (Atom.ofValue quoted (← evaluateArithmetic text))
      | .parameter name quoted change operand => do
        let state ← get
        let isList := name = "@" || name = "*"
        let value :=
          if isList then
            if state.arguments.isEmpty then none else some (" ".intercalate state.arguments)
          else value? state name
        let itself := if isList then argumentAtoms state name quoted
          else Atom.ofValue quoted (value.getD "")
        let isMissing (empty : Bool) : Bool := value.isNone || (empty && value = some "")
        match change with
        | .none =>
          if value.isNone && !isList && state.has 'u' then Run.fail (insisted name false "")
          else pure itself
        | .length =>
          if value.isNone && !isList && state.has 'u' then Run.fail (insisted name false "")
          else pure (Atom.ofValue quoted (toString (value.getD "").utf8ByteSize))
        | .otherwise empty =>
          if isMissing empty then expand run fuel (withHome state operand) else pure itself
        | .instead empty =>
          if isMissing empty then pure (if quoted then [.present] else [])
          else expand run fuel (withHome state operand)
        | .assign empty =>
          if isMissing empty then do
            let text := Atom.text (← expand run fuel (withHome state operand))
            Run.assign name text
            pure (Atom.ofValue quoted text)
          else pure itself
        | .insist empty =>
          if isMissing empty then do
            let text := Atom.text (← expand run fuel operand)
            Run.fail (insisted name empty text)
          else pure itself
        | .dropPrefix longest => do
          let pattern := wildOf (Atom.glyphs (← expand run fuel operand))
          let text := withoutPrefix longest pattern (value.getD "").toList
          pure (Atom.ofValue quoted (String.ofList text))
        | .dropSuffix longest => do
          let pattern := wildOf (Atom.glyphs (← expand run fuel operand))
          let text := withoutSuffix longest pattern (value.getD "").toList
          pure (Atom.ofValue quoted (String.ofList text))
        | .unknown => Run.fail "Bad substitution"
    return atoms ++ (← expand run fuel rest)

/-- How many parts a word may have, and how deep words may stand in words. -/
def expansionFuel : Nat := 10000

/-- The atoms of a word. -/
def atomsOf (run : List Command → Run Unit) (word : Word) : Run (List Atom) := do
  expand run expansionFuel (withHome (← get) word)

/-- The text of a word that is not split. -/
def textOf (run : List Command → Run Unit) (word : Word) : Run String := do
  return Atom.text (← atomsOf run word)

/-- The text of a word that is the value of an assignment. -/
def valueOf (run : List Command → Run Unit) (word : Word) : Run String := do
  return Atom.text (← expand run expansionFuel (withHomes (← get) true word))

/-- The pattern that a word is. -/
def patternOf (run : List Command → Run Unit) (word : Word) : Run (List Wild) := do
  return wildOf (Atom.glyphs (← atomsOf run word))

/-- The texts that a word becomes. -/
def textsOf (run : List Command → Run Unit) (word : Word) : Run (List String) := do
  let atoms ← atomsOf run word
  let state ← get
  let found := fields state.separators none false atoms
  if state.has 'f' then return found.map fun field => String.ofList (field.map (·.char))
  else return found.flatMap (pathsFor state.files)

end CommandShell.Programs.Script
