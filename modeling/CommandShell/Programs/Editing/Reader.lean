import CommandShell.Programs.Editing.Syntax
import CommandShell.Programs.Regular.Reader

/-!
# Reading Editing Scripts

How the text of a script of the stream editor is read.
-/

namespace CommandShell.Programs.Editing

/-- What is wrong with a script. -/
inductive Fault where
  /-- There is no such command. -/
  | unknown (command : Char)
  /-- A command is missing. -/
  | missing
  /-- An expression, a replacement or a table is not closed. -/
  | unterminated (what : String)
  /-- Something follows a command that does not belong to it. -/
  | extra
  /-- An option of a replacement is none. -/
  | badOption
  /-- A brace is not closed. -/
  | openBlock
  /-- A brace is closed that is not open. -/
  | closedBlock
  /-- A comma is not followed by an address. -/
  | badRange
  /-- A command needs a text. -/
  | noText
  /-- A command needs a file or a label. -/
  | noName
  /-- The sides of a table have different lengths. -/
  | badTable
  /-- A group is used that is not there. -/
  | noGroup (number : Nat)
  /-- An expression is none. -/
  | badPattern (fault : Regular.Fault)
  /-- A branch leads to a label that is not there. -/
  | noLabel (name : String)
  deriving DecidableEq, Repr

/-- The wording of a fault. -/
def Fault.message : Fault → String
  | .unknown command => s!"unknown command: \x60{command}'"
  | .missing => "missing command"
  | .unterminated what => s!"unterminated {what}"
  | .extra => "extra characters after command"
  | .badOption => "unknown option to \x60s'"
  | .openBlock => "unmatched \x60\x7b'"
  | .closedBlock => "unexpected \x60\x7d'"
  | .badRange => "unexpected \x60,'"
  | .noText => "expected \\ after \x60a', \x60c' or \x60i'"
  | .noName => "missing filename in r/R/w/W commands"
  | .badTable => "strings for \x60y' command are different lengths"
  | .noGroup number => s!"invalid reference \\{number} on \x60s' command's RHS"
  | .badPattern fault => fault.message
  | .noLabel name => s!"can't find label for jump to \x60{name}'"

/-- Skip blanks. -/
def skipBlanks (text : Bytes) : Bytes := text.dropWhile isBlankIn

/-- The byte that a letter stands for after a backslash. -/
def escaped? (c : UInt8) : Option UInt8 :=
  match Char.ofNat c.toNat with
  | 'a' => some 0x07
  | 'f' => some 0x0C
  | 'n' => some 0x0A
  | 'r' => some 0x0D
  | 't' => some 0x09
  | 'v' => some 0x0B
  | _ => none

/-- The value of a digit of a base. -/
def digitOf? (base : Nat) (b : UInt8) : Option Nat :=
  let value := if isDigitByte b then b.toNat - 0x30 else (lowerByte b).toNat - 0x61 + 10
  if (isDigitByte b || isLetterByte b) && value < base then some value else none

/-- Read a byte that is given by so many digits at most. -/
def readCode (base : Nat) : (count : Nat) → (value : Nat) → Bytes → Nat × Bytes
  | 0, value, text => (value, text)
  | _, value, [] => (value, [])
  | count + 1, value, b :: rest =>
    match digitOf? base b with
    | some digit => readCode base count (value * base + digit) rest
    | none => (value, b :: rest)

/-- Read an escape that stands for a byte, after its backslash. -/
def readEscape? (text : Bytes) : Option (UInt8 × Bytes) :=
  match text with
  | [] => none
  | c :: rest =>
    let coded (base count : Nat) : Option (UInt8 × Bytes) :=
      let (value, after) := readCode base count 0 rest
      if after.length = rest.length then none else some (UInt8.ofNat value, after)
    match escaped? c, Char.ofNat c.toNat, rest with
    | some b, _, _ => some (b, rest)
    | none, 'x', _ => coded 16 2
    | none, 'o', _ => coded 8 3
    | none, 'd', _ => coded 10 3
    | none, 'c', b :: rest => some (upperByte b ^^^ 0x40, rest)
    | none, _, _ => none

/-- Read up to a delimiter; one that a backslash protects is kept without it. Brackets do not
matter. -/
def readDelimited (delimiter : UInt8) : Bytes → Option (Bytes × Bytes)
  | [] => none
  | [b] => if b = delimiter then some ([], []) else none
  | b :: c :: rest =>
    if b = delimiter then some ([], c :: rest)
    else if b = 0x5C then
      (readDelimited delimiter rest).map fun (inner, after) =>
        if c = delimiter then (c :: inner, after) else (b :: c :: inner, after)
    else (readDelimited delimiter (c :: rest)).map fun (inner, after) => (b :: inner, after)

/-- The text of an expression with the escapes that stand for bytes replaced; `fuel` bounds the
number of steps. -/
def withEscapes : (fuel : Nat) → Bytes → Bytes
  | 0, text => text
  | _, [] => []
  | fuel + 1, 0x5C :: rest =>
    match readEscape? rest, rest with
    | some (b, after), _ => b :: withEscapes fuel after
    | none, c :: after => 0x5C :: c :: withEscapes fuel after
    | none, [] => [0x5C]
  | fuel + 1, b :: rest => b :: withEscapes fuel rest

/-- An expression with its flags. -/
def patternOf (extended folds multiLine : Bool) (text : Bytes) : Except Fault Pattern :=
  if text.isEmpty then .ok ⟨none, folds, multiLine⟩
  else
    match Regular.read extended (withEscapes text.length text) with
    | .ok regular => .ok ⟨some (if folds then regular.folded else regular), folds, multiLine⟩
    | .error fault => .error (.badPattern fault)

/-- Read a number. -/
def readNumber (text : Bytes) : Option (Nat × Bytes) :=
  let digits := text.takeWhile isDigitByte
  if digits.isEmpty then none
  else some (digits.foldl (fun n b => n * 10 + (b.toNat - 0x30)) 0, text.drop digits.length)

/-- Read the address between delimiters. -/
def readPatternAddress (extended : Bool) (delimiter : UInt8) (text : Bytes) :
    Except Fault (Address × Bytes) := do
  match readDelimited delimiter text with
  | none => .error (.unterminated "address regex")
  | some (inner, rest) =>
    let flags := rest.takeWhile fun b => b = 0x49 || b = 0x4D
    let pattern ← patternOf extended (flags.contains 0x49) (flags.contains 0x4D) inner
    return (.pattern pattern, rest.drop flags.length)

/-- Read an address, if there is one. -/
def readAddress (extended : Bool) (text : Bytes) : Except Fault (Option Address × Bytes) := do
  match text with
  | 0x24 :: rest => return (some .last, rest)
  | 0x2F :: rest =>
    let (address, rest) ← readPatternAddress extended 0x2F rest
    return (some address, rest)
  | 0x5C :: delimiter :: rest =>
    let (address, rest) ← readPatternAddress extended delimiter rest
    return (some address, rest)
  | _ =>
    match readNumber text with
    | none => return (none, text)
    | some (number, rest) =>
      match skipBlanks rest with
      | 0x7E :: after =>
        match readNumber (skipBlanks after) with
        | some (size, rest) => return (some (.step number size), rest)
        | none => return (some (.step number 0), after)
      | _ => return (some (.line number), rest)

/-- Read the end of a range after its comma. -/
def readRangeEnd (extended : Bool) (text : Bytes) : Except Fault (RangeEnd × Bytes) := do
  match text with
  | 0x2B :: rest =>
    match readNumber rest with
    | some (count, rest) => return (.after count, rest)
    | none => .error .badRange
  | 0x7E :: rest =>
    match readNumber rest with
    | some (size, rest) => return (.multiple size, rest)
    | none => .error .badRange
  | _ =>
    match ← readAddress extended text with
    | (some address, rest) => return (.address address, rest)
    | (none, _) => .error .badRange

/-- Read what a command is carried out on. -/
def readSelection (extended : Bool) (text : Bytes) : Except Fault (Selection × Bytes) := do
  let (first, rest) ← readAddress extended text
  let (last, rest) ← match first, skipBlanks rest with
    | some _, 0x2C :: rest => do
      let (last, rest) ← readRangeEnd extended (skipBlanks rest)
      pure (some last, rest)
    | _, _ => pure (none, rest)
  let rest := skipBlanks rest
  let signs := rest.takeWhile fun b => b = 0x21 || isBlankIn b
  return (⟨first, last, signs.contains 0x21⟩, rest.drop signs.length)

/-- Put a byte at the beginning of pieces. -/
def consPiece (b : UInt8) : List Piece → List Piece
  | .text bytes :: rest => .text (b :: bytes) :: rest
  | pieces => .text [b] :: pieces

/-- The pieces of a replacement; `fuel` bounds the number of steps. -/
def piecesOf : (fuel : Nat) → Bytes → List Piece
  | 0, _ | _, [] => []
  | fuel + 1, 0x26 :: rest => .group 0 :: piecesOf fuel rest
  | fuel + 1, 0x5C :: c :: rest =>
    if isDigitByte c then .group (c.toNat - 0x30) :: piecesOf fuel rest
    else
      match Char.ofNat c.toNat, readEscape? (c :: rest) with
      | 'U', _ => .case .upper :: piecesOf fuel rest
      | 'L', _ => .case .lower :: piecesOf fuel rest
      | 'u', _ => .case .nextUpper :: piecesOf fuel rest
      | 'l', _ => .case .nextLower :: piecesOf fuel rest
      | 'E', _ => .case .stop :: piecesOf fuel rest
      | _, some (b, after) => consPiece b (piecesOf fuel after)
      | _, none => consPiece c (piecesOf fuel rest)
  | fuel + 1, b :: rest => consPiece b (piecesOf fuel rest)

/-- The byte ends a command. -/
def endsCommand (b : UInt8) : Bool := b = 0x3B || b = Input.newline || b = 0x7D || b = 0x23

/-- Read up to the end of the line. -/
def readRestOfLine (text : Bytes) : Bytes × Bytes :=
  let line := text.takeWhile (· != Input.newline)
  (line, text.drop line.length)

/-- The options after a replacement. -/
structure ReplaceOptions where
  /-- The number of the first match that is replaced. -/
  which : Nat
  /-- All matches after it are replaced too. -/
  all : Bool
  /-- The line is printed. -/
  prints : Bool
  /-- The case of letters does not matter. -/
  folds : Bool
  /-- Lines within the text have beginnings and ends. -/
  multiLine : Bool
  /-- The line is written to a file. -/
  file : Option String
  deriving DecidableEq, Repr

/-- Read the options after a replacement; `fuel` bounds their number. -/
def readOptions : (fuel : Nat) → ReplaceOptions → Bytes → Except Fault (ReplaceOptions × Bytes)
  | 0, options, text => .ok (options, text)
  | _, options, [] => .ok (options, [])
  | fuel + 1, options, b :: rest =>
    match Char.ofNat b.toNat with
    | 'g' => readOptions fuel { options with all := true } rest
    | 'p' => readOptions fuel { options with prints := true } rest
    | 'i' | 'I' => readOptions fuel { options with folds := true } rest
    | 'm' | 'M' => readOptions fuel { options with multiLine := true } rest
    | 'w' =>
      let (path, rest) := readRestOfLine (skipBlanks rest)
      if path.isEmpty then .error .noName
      else .ok ({ options with file := some (lossyText path) }, rest)
    | _ =>
      if isDigitByte b then
        match readNumber (b :: rest) with
        | some (number, rest) =>
          if number = 0 then .error .badOption
          else readOptions fuel { options with which := number } rest
        | none => .error .badOption
      else if endsCommand b || isBlankIn b || b = 0x0D then .ok (options, b :: rest)
      else .error .badOption

/-- Read a replacement after the letter of its command. -/
def readSubstitution (extended : Bool) (text : Bytes) : Except Fault (Action × Bytes) := do
  let parts : Option (Bytes × Bytes × Bytes) := do
    let delimiter ← text.head?
    if delimiter = Input.newline || delimiter = 0x5C then none
    let (pattern, rest) ← readDelimited delimiter text.tail
    let (replacement, rest) ← readDelimited delimiter rest
    return (pattern, replacement, rest)
  match parts with
  | none => .error (.unterminated "\x60s' command")
  | some (pattern, replacement, rest) =>
    let (options, rest) ← readOptions rest.length ⟨1, false, false, false, false, none⟩ rest
    let pattern ← patternOf extended options.folds options.multiLine pattern
    let pieces := piecesOf replacement.length replacement
    let groups := (pattern.regular.map (·.groupCount)).getD 9
    let missing := pieces.findSome? fun
      | .group number => if number > groups then some number else none
      | _ => none
    match missing with
    | some number => .error (.noGroup number)
    | none =>
      return (.substitute ⟨pattern, pieces, options.which, options.all, options.prints,
        options.file⟩, rest)

/-- The bytes of a side of a table, with their escapes replaced; `fuel` bounds the number of
steps. -/
def tableSide : (fuel : Nat) → Bytes → Bytes
  | 0, _ | _, [] => []
  | fuel + 1, 0x5C :: c :: rest =>
    if c = 0x5C then 0x5C :: tableSide fuel rest
    else
      match readEscape? (c :: rest) with
      | some (b, after) => b :: tableSide fuel after
      | none => 0x5C :: c :: tableSide fuel rest
  | fuel + 1, b :: rest => b :: tableSide fuel rest

/-- Read a table after the letter of its command. -/
def readTable (text : Bytes) : Except Fault (Action × Bytes) := do
  let parts : Option (Bytes × Bytes × Bytes) := do
    let delimiter ← text.head?
    let (source, rest) ← readDelimited delimiter text.tail
    let (target, rest) ← readDelimited delimiter rest
    return (source, target, rest)
  match parts with
  | none => .error (.unterminated "\x60y' command")
  | some (source, target, rest) =>
    let source := tableSide source.length source
    let target := tableSide target.length target
    if source.length != target.length then .error .badTable
    else return (.translate (source.zip target), rest)

/-- Read the lines of a text: a backslash before a newline lets it go on. -/
def readTextLines : Bytes → Bytes × Bytes
  | [] => ([], [])
  | [b] => if b = Input.newline then ([], []) else if b = 0x5C then ([], []) else ([b], [])
  | b :: c :: rest =>
    if b = Input.newline then ([], c :: rest)
    else if b = 0x5C then
      let (text, after) := readTextLines rest
      (c :: text, after)
    else
      let (text, after) := readTextLines (c :: rest)
      (b :: text, after)

/-- Read the text of a command that prints one. -/
def readText (text : Bytes) : Except Fault (Bytes × Bytes) :=
  let start := skipBlanks text
  let start := match start with
    | 0x5C :: rest =>
      match skipBlanks rest with
      | 0x0A :: rest => rest
      | _ => skipBlanks rest
    | _ => start
  if start.isEmpty then .error .noText
  else
    let (lines, rest) := readTextLines start
    .ok (lines ++ [Input.newline], rest)

/-- Read a label: it ends at blanks or semicolons. -/
def readLabel (text : Bytes) : String × Bytes :=
  let text := skipBlanks text
  let name := text.takeWhile fun b => !(b = 0x3B || b = Input.newline || isBlankIn b || b = 0x7D)
  (lossyText name, text.drop name.length)

/-- Read a command after its addresses: what it does, and what is left. -/
def readAction (extended : Bool) (text : Bytes) : Except Fault (Action × Bytes) := do
  match text with
  | [] => .error .missing
  | b :: rest =>
    let file (make : String → Action) : Except Fault (Action × Bytes) :=
      let (path, rest) := readRestOfLine (skipBlanks rest)
      if path.isEmpty then .error .noName else .ok (make (lossyText path), rest)
    let withNumber (usual : Nat) (make : Nat → Action) : Except Fault (Action × Bytes) :=
      match readNumber (skipBlanks rest) with
      | some (number, rest) => .ok (make number, rest)
      | none => .ok (make usual, rest)
    let labelled (make : String → Action) : Except Fault (Action × Bytes) :=
      let (name, rest) := readLabel rest
      .ok (make name, rest)
    let printed (make : Bytes → Action) : Except Fault (Action × Bytes) := do
      let (text, rest) ← readText rest
      return (make text, Input.newline :: rest)
    match Char.ofNat b.toNat with
    | 's' => readSubstitution extended rest
    | 'y' => readTable rest
    | 'a' => printed .append
    | 'i' => printed .insert
    | 'c' => printed .change
    | 'd' => return (.delete, rest)
    | 'D' => return (.deleteFirst, rest)
    | 'p' => return (.print, rest)
    | 'P' => return (.printFirst, rest)
    | 'l' => withNumber 70 .list
    | '=' => return (.number, rest)
    | 'n' => return (.next, rest)
    | 'N' => return (.join, rest)
    | 'h' => return (.hold, rest)
    | 'H' => return (.holdMore, rest)
    | 'g' => return (.take, rest)
    | 'G' => return (.takeMore, rest)
    | 'x' => return (.exchange, rest)
    | 'z' => return (.clear, rest)
    | 'b' => labelled .branch
    | 't' => labelled (.branchIf false)
    | 'T' => labelled (.branchIf true)
    | 'q' => withNumber 0 (.quit false)
    | 'Q' => withNumber 0 (.quit true)
    | 'r' => file .read
    | 'w' => file (.write false)
    | 'W' => file (.write true)
    | ':' =>
      let start := skipBlanks rest
      let name := start.takeWhile fun b => !(isBlankIn b || b = 0x3B || b = Input.newline)
      let rest := start.drop name.length
      if name.isEmpty then .error .noName else return (.label (lossyText name), rest)
    | c => .error (.unknown c)

/-- Read commands up to the end of the script; `opened` holds the positions of the braces that are
open, and `commands` what has been read, last first. `fuel` bounds the number of steps. -/
def readCommands (extended : Bool) : (fuel : Nat) → (opened : List Nat) →
    (commands : List Command) → Bytes → Except Fault (List Command)
  | 0, _, _, _ => .error .missing
  | fuel + 1, opened, commands, text => do
    let text := text.dropWhile fun b => isBlankIn b || b = 0x3B || b = Input.newline
    match text with
    | [] => if opened.isEmpty then return commands.reverse else .error .openBlock
    | 0x23 :: rest => readCommands extended fuel opened commands (readRestOfLine rest).2
    | 0x7D :: rest =>
      match opened with
      | [] => .error .closedBlock
      | position :: opened =>
        let stop := commands.length
        let commands := (commands.reverse.zip (List.range stop)).map fun (command, i) =>
          if i = position then { command with action := .block stop } else command
        readCommands extended fuel opened commands.reverse rest
    | _ =>
      let (selection, rest) ← readSelection extended text
      match rest with
      | 0x7B :: rest =>
        readCommands extended fuel (commands.length :: opened)
          (⟨selection, .block 0⟩ :: commands) rest
      | _ =>
        let (action, rest) ← readAction extended rest
        let rest := skipBlanks rest
        if rest.head?.all endsCommand then
          readCommands extended fuel opened (⟨selection, action⟩ :: commands) rest
        else .error .extra

/-- Read a script. -/
def readScript (extended : Bool) (text : Bytes) : Except Fault (List Command) := do
  let commands ← readCommands extended (text.length + 2) [] [] text
  let labels := commands.filterMap fun command =>
    match command.action with
    | .label name => some name
    | _ => none
  let missing := commands.findSome? fun command =>
    match command.action with
    | .branch name | .branchIf _ name =>
      if name.isEmpty || labels.contains name then none else some name
    | _ => none
  match missing with
  | some name => .error (.noLabel name)
  | none => return commands

end CommandShell.Programs.Editing
