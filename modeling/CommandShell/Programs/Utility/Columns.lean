import CommandShell.Programs.Printf
import CommandShell.Programs.Utility.Order
import CommandShell.Programs.Utility.Size

/-!
# Columns

Programs that take lines apart or put them side by side: `cut` keeps some fields or bytes of each
line, `paste` joins lines, `fold` breaks them, and `expand` and `unexpand` change tabs to blanks and
blanks to tabs.
-/

namespace CommandShell.Programs

/-- Positions from one number to another one; without an end they go on for ever. -/
structure Span where
  /-- The first position, counted from 1. -/
  first : Nat
  /-- The last position. -/
  last : Option Nat
  deriving DecidableEq, Repr

namespace Span

/-- A position belongs to a span. -/
def has (span : Span) (position : Nat) : Bool :=
  span.first ≤ position && span.last.all (position ≤ ·)

/-- Read a span: `N`, `N-`, `-M` or `N-M`. -/
def read? (text : String) : Option Span :=
  let chars := text.toList
  let before := chars.takeWhile (· != '-')
  let number (digits : List Char) : Option Nat :=
    if digits.isEmpty || digits.any (!·.isDigit) then none
    else some (digits.foldl (fun n c => n * 10 + (c.toNat - '0'.toNat)) 0)
  match chars.drop before.length with
  | [] => (number before).bind fun n => if n = 0 then none else some ⟨n, some n⟩
  | _ :: after =>
    match before.isEmpty, after.isEmpty with
    | true, true => none
    | true, false => (number after).bind fun n => if n = 0 then none else some ⟨1, some n⟩
    | false, true => (number before).bind fun n => if n = 0 then none else some ⟨n, none⟩
    | false, false => do
      let first ← number before
      let last ← number after
      if first = 0 || last < first then none else return ⟨first, some last⟩

/-- Read spans with commas or blanks between them. -/
def readAll? (text : String) : Option (List Span) :=
  ((text.split fun c => c = ',' || c = ' ' || c = '\t').toList.map (·.toString)).mapM read?

end Span

/-- Split at each occurrence of a byte. -/
def splitAtByte (separator : UInt8) (data : Bytes) : List Bytes :=
  data.foldr (fun b parts =>
    if b = separator then [] :: parts
    else
      match parts with
      | part :: rest => (b :: part) :: rest
      | [] => [[b]]) [[]]

/-- Keep some of the items of a line, by their positions. -/
def keepItems {α : Type} (spans : List Span) (inverted : Bool) (items : List α) : List α :=
  ((items.zip (List.range items.length)).filter fun (_, i) =>
    spans.any (·.has (i + 1)) != inverted).map (·.1)

/-- Whether the bytes at positions are kept, for a delimiter between ranges of bytes. -/
def keptRuns (spans : List Span) (inverted : Bool) (line : Bytes) : List Bytes :=
  let marked := (line.zip (List.range line.length)).map fun (b, i) =>
    (b, spans.any (·.has (i + 1)) != inverted,
      inverted || spans.any fun span => span.first = i + 1)
  marked.foldr (fun (b, kept, begins) runs =>
    if !kept then [] :: runs
    else
      match runs with
      | [] => [[b]]
      | run :: rest => if begins && !inverted then [] :: (b :: run) :: rest else (b :: run) :: rest)
    [[]] |>.filter (!·.isEmpty)

/-- Keep some fields or bytes of each line. -/
def cut : Utility := fun call =>
  let flags := flagsOf "nszC" "bcdfO"
    [('b', "bytes"), ('c', "characters"), ('d', "delimiter"), ('f', "fields"),
      ('s', "only-delimited"), ('C', "complement"), ('O', "output-delimiter"),
      ('z', "zero-terminated")]
  call.parsed flags 1 fun arguments =>
    let modes := arguments.given.filter fun (letter, _) => "bcf".toList.contains letter
    match modes with
    | [] => call.misused 1 "you must specify a list of bytes, characters, or fields"
    | _ :: _ :: _ => call.misused 1 "only one list may be specified"
    | [(mode, text)] =>
      let delimiter := (arguments.value? 'd').getD "\t"
      let shown := arguments.value? 'O'
      match Span.readAll? text, delimiter.utf8ByteSize with
      | none, _ =>
        if mode = 'f' then call.misused 1 "fields are numbered from 1"
        else call.misused 1 "byte/character positions are numbered from 1"
      | some spans, size =>
        if mode != 'f' && (arguments.value? 'd').isSome then
          call.misused 1 "an input delimiter may be specified only when operating on fields"
        else if mode != 'f' && arguments.has 's' then
          call.misused 1 <| "suppressing non-delimited lines makes sense\n\t" ++
            "only when operating on fields"
        else if size > 1 then call.misused 1 "the delimiter must be a single character"
        else
          let isInverted := arguments.has 'C'
          let separator := (utf8 delimiter).headD 0
          let work (line : Bytes) : Bytes :=
            if mode = 'f' then
              let fields := splitAtByte separator line
              match fields with
              | [_] => if arguments.has 's' then [] else line ++ [Input.newline]
              | _ =>
                let between := (shown.map utf8).getD [separator]
                between.intercalate (keepItems spans isInverted fields) ++ [Input.newline]
            else
              match shown with
              | none => keepItems spans isInverted line ++ [Input.newline]
              | some text =>
                (utf8 text).intercalate (keptRuns spans isInverted line) ++ [Input.newline]
          call.onContents 1 arguments.operands
            (withEnds (arguments.has 'z') fun data => (linesOf data).flatMap work)

/-- The delimiters that a list for `paste` stands for; one of them may be nothing. -/
def pasteDelimiters : List Char → List Bytes
  | [] => []
  | '\\' :: c :: rest =>
    (match c with
      | 'n' => [0x0A]
      | 't' => [0x09]
      | 'b' => [0x08]
      | 'f' => [0x0C]
      | 'r' => [0x0D]
      | 'v' => [0x0B]
      | '0' => []
      | c => utf8 (String.singleton c)) :: pasteDelimiters rest
  | c :: rest => utf8 (String.singleton c) :: pasteDelimiters rest

/-- The delimiter in a place; after the last one the first one is used again. -/
def delimiterAt (delimiters : List Bytes) (i : Nat) : Bytes :=
  (delimiters[i % delimiters.length]?).getD []

/-- Join items with delimiters between them. -/
def joinWith (delimiters : List Bytes) (items : List Bytes) : Bytes :=
  ((items.zip (List.range items.length)).map fun (item, i) =>
    if i = 0 then item else delimiterAt delimiters (i - 1) ++ item).flatten

/-- Share out the lines of the input among operands that stand for it, one after the other. -/
def shareLines (count : Nat) (lines : List Bytes) (i : Nat) : List Bytes :=
  (lines.zip (List.range lines.length)).filterMap fun (line, j) =>
    if j % count = i then some line else none

/-- The lines of the operands of `paste`; if several stand for the input, they take turns. -/
def pasteColumns (contents : Contents) : List (List Bytes) :=
  let inputs := contents.good.filter (·.1 == "-")
  let lines := inputs.flatMap fun (_, data) => linesOf data
  let rec go (i : Nat) : List (String × Bytes) → List (List Bytes)
    | [] => []
    | (path, data) :: rest =>
      if path = "-" && inputs.length > 1 then
        shareLines inputs.length lines i :: go (i + 1) rest
      else linesOf data :: go i rest
  go 0 contents.good

/-- Join lines of operands side by side, or all lines of each operand. -/
def paste : Utility := fun call =>
  let flags := flagsOf "sz" "d" [('s', "serial"), ('d', "delimiters"), ('z', "zero-terminated")]
  call.parsed flags 1 fun arguments =>
    let list := (arguments.value? 'd').getD "\t"
    let delimiters := if list.isEmpty then [[]] else pasteDelimiters list.toList
    let isZero := arguments.has 'z'
    let contents : Contents := call.contents arguments.operands
    let contents : Contents := contents.map fun (path, data) =>
      (path, if isZero then data.map exchangeEnds else data)
    let output :=
      if arguments.has 's' then
        contents.good.flatMap fun (_, data) => joinWith delimiters (linesOf data) ++ [Input.newline]
      else
        let columns := pasteColumns contents
        let height := (columns.map (·.length)).foldl max 0
        (List.range height).flatMap fun i =>
          joinWith delimiters (columns.map fun lines => (lines[i]?).getD []) ++ [Input.newline]
    let output := if isZero then exchangeEnds output else output
    (call.reads arguments.operands (call.success output)).spoiled 1
      (call.complaintsAbout Call.plainly contents)

/-- Where a byte leads on a line. -/
def nextColumn (byBytes : Bool) (column : Nat) (b : UInt8) : Nat :=
  if byBytes then column + 1
  else if b = 0x08 then column - 1
  else if b = 0x0D then 0
  else if b = 0x09 then column + 8 - column % 8
  else column + 1

/-- The column after some bytes. -/
def columnAfter (byBytes : Bool) (text : Bytes) : Nat :=
  text.foldl (nextColumn byBytes) 0

/-- Break a line into pieces that are no wider than a width: `current` is the piece being put
together, last byte first, and `column` its width. With `atBlanks` a piece ends after its last blank
if it has one. -/
def foldLine (width : Nat) (byBytes atBlanks : Bool) : (current : Bytes) → (column : Nat) →
    Bytes → List Bytes
  | current, _, [] => if current.isEmpty then [] else [current.reverse]
  | current, column, b :: rest =>
    let next := nextColumn byBytes column b
    if next ≤ width || current.isEmpty then foldLine width byBytes atBlanks (b :: current) next rest
    else
      let tail := if atBlanks then current.takeWhile (!isBlankIn ·) else []
      let tail := if tail.length = current.length then [] else tail
      let kept := b :: tail
      (current.drop tail.length).reverse ::
        foldLine width byBytes atBlanks kept (columnAfter byBytes kept.reverse) rest

/-- Arguments with a number after a hyphen, such as `-4`, put as the value of an option. -/
def withNumberAs (letter : Char) (args : List String) : List String :=
  args.map fun arg =>
    match arg.toList with
    | '-' :: c :: rest => if c.isDigit then String.ofList ('-' :: letter :: c :: rest) else arg
    | _ => arg

/-- Break lines that are too wide. -/
def fold : Utility := fun call =>
  let flags := flagsOf "bs" "w" [('b', "bytes"), ('s', "spaces"), ('w', "width")]
  let call := { call with args := withNumberAs 'w' call.args }
  call.parsed flags 1 fun arguments =>
    let given := (arguments.value? 'w').getD "80"
    match given.toNat? with
    | none | some 0 => call.refused 1 s!"invalid number of columns: {quoted given}"
    | some width =>
      call.onContents 1 arguments.operands fun data =>
        (linesWithEnds data).flatMap fun line =>
          let isComplete := line.getLast? = some Input.newline
          let body := if isComplete then line.dropLast else line
          let pieces := foldLine width (arguments.has 'b') (arguments.has 's') [] 0 body
          [Input.newline].intercalate pieces ++ (if isComplete then [Input.newline] else [])

/-- The next tab stop after a column: of a list, or at multiples of the only one. -/
def nextStop (stops : List Nat) (column : Nat) : Nat :=
  match stops with
  | [size] => column + size - column % size
  | _ => (stops.find? (· > column)).getD (column + 1)

/-- Change tabs to blanks; with `leading` only those at the beginning of lines. -/
def expandTabs (stops : List Nat) (leading : Bool) : (column : Nat) → (atStart : Bool) → Bytes →
    Bytes
  | _, _, [] => []
  | column, atStart, b :: rest =>
    if b = Input.newline then b :: expandTabs stops leading 0 true rest
    else if b = 0x09 && (atStart || !leading) then
      let next := nextStop stops column
      List.replicate (next - column) 0x20 ++ expandTabs stops leading next atStart rest
    else
      let next := if b = 0x08 then column - 1 else column + 1
      b :: expandTabs stops leading next (atStart && isBlankIn b) rest

/-- Numbers each of which is greater than the one before. -/
def isAscending : List Nat → Bool
  | [] | [_] => true
  | a :: b :: rest => a < b && isAscending (b :: rest)

/-- Change tabs to blanks. -/
def expandLines : Utility := fun call =>
  let flags := flagsOf "i" "t" [('i', "initial"), ('t', "tabs")]
  let call := { call with args := withNumberAs 't' call.args }
  call.parsed flags 1 fun arguments =>
    let given := (arguments.value? 't').getD "8"
    match ((given.split fun c => c = ',' || c = ' ').toList.mapM fun part =>
        part.toString.toNat?) with
    | some stops =>
      if stops.contains 0 then call.refused 1 "tab size cannot be 0"
      else if !isAscending stops then call.refused 1 "tab sizes must be ascending"
      else call.onContents 1 arguments.operands (expandTabs stops (arguments.has 'i') 0 true)
    | none => call.refused 1 s!"tab size contains invalid character(s): {quoted given}"

/-- Blanks from one column to another one, as tabs where they reach a tab stop; `fuel` bounds the
number of tabs. -/
def blanksAsTabs (size : Nat) : (fuel : Nat) → (start stop : Nat) → Bytes
  | 0, _, _ => []
  | fuel + 1, start, stop =>
    let next := start + size - start % size
    if next ≤ stop then
      (if next = start + 1 && stop = next then 0x20 else 0x09) :: blanksAsTabs size fuel next stop
    else List.replicate (stop - start) 0x20

/-- Change blanks to tabs: `start` and `column` are where the run of blanks begins and ends. -/
def unexpandLine (size : Nat) (everywhere : Bool) : (start column : Nat) → (atStart : Bool) →
    Bytes → Bytes
  | start, column, _, [] => blanksAsTabs size (column + 1) start column
  | start, column, atStart, b :: rest =>
    if isBlankIn b && (atStart || everywhere) then
      let next := if b = 0x09 then column + size - column % size else column + 1
      unexpandLine size everywhere start next atStart rest
    else
      blanksAsTabs size (column + 1) start column ++
        b :: unexpandLine size everywhere (column + 1) (column + 1) false rest

/-- Change blanks to tabs, at the beginning of lines or everywhere. -/
def unexpandLines : Utility := fun call =>
  let flags := flagsOf "aF" "t" [('a', "all"), ('F', "first-only"), ('t', "tabs")]
  call.parsed flags 1 fun arguments =>
    match ((arguments.value? 't').getD "8").toNat? with
    | none | some 0 => call.refused 1 "tab size cannot be 0"
    | some size =>
      let everywhere := (arguments.has 'a' || arguments.has 't') && !arguments.has 'F'
      call.onContents 1 arguments.operands fun data =>
        (linesWithEnds data).flatMap fun line =>
          let isComplete := line.getLast? = some Input.newline
          let body := if isComplete then line.dropLast else line
          unexpandLine size everywhere 0 0 true body ++
            (if isComplete then [Input.newline] else [])

end CommandShell.Programs
