import CommandShell.Programs.Regular.Matching
import CommandShell.Programs.Regular.Reader
import CommandShell.Programs.Utility.Size

/-!
# Copying

Programs that copy what they read: as it is, with signs for what cannot be seen (`cat`), to files
as well (`tee`), backwards (`tac`, `rev`), or with numbers (`nl`).
-/

namespace CommandShell.Programs

/-- How `cat` shows what it copies. -/
structure Display where
  /-- Lines have numbers. -/
  numbered : Bool
  /-- Only lines that are not empty have numbers. -/
  filledOnly : Bool
  /-- Of several empty lines in a row only one is kept. -/
  squeezed : Bool
  /-- The ends of lines are marked. -/
  ends : Bool
  /-- Tabs are shown. -/
  tabs : Bool
  /-- Other bytes that cannot be seen are shown. -/
  controls : Bool
  deriving DecidableEq, Repr

namespace Display

/-- A byte as it is shown. -/
def shown (display : Display) (b : UInt8) : Bytes :=
  if b = 0x09 then if display.tabs then [0x5E, 0x49] else [b]
  else if b = Input.newline || !display.controls then [b]
  else
    let (mark, low) := if b ≥ 0x80 then ([0x4D, 0x2D], b - 0x80) else ([], b)
    mark ++
      (if low < 0x20 then [0x5E, low + 0x40] else if low = 0x7F then [0x5E, 0x3F] else [low])

/-- A line with its newline, as it is shown. -/
def line (display : Display) (line : Bytes) : Bytes :=
  if line.getLast? = some Input.newline then
    let ending := if display.ends then [0x24, Input.newline] else [Input.newline]
    let body := line.dropLast
    if display.ends && !display.controls && body.getLast? = some 0x0D then
      body.dropLast.flatMap display.shown ++ [0x5E, 0x4D] ++ ending
    else body.flatMap display.shown ++ ending
  else line.flatMap display.shown

/-- Lines with their newlines, as they are shown; `number` is that of the next line, and `wasEmpty`
tells that the line before is empty. -/
def lines (display : Display) : (number : Nat) → (wasEmpty : Bool) → List Bytes → Bytes
  | _, _, [] => []
  | number, wasEmpty, line :: rest =>
    let isEmpty := line = [Input.newline]
    if isEmpty && wasEmpty && display.squeezed then display.lines number true rest
    else if display.numbered && !(isEmpty && display.filledOnly) then
      utf8 (padded 6 (toString number) ++ "\t") ++ display.line line ++
        display.lines (number + 1) isEmpty rest
    else display.line line ++ display.lines number isEmpty rest

end Display

/-- Copy operands. -/
def cat : Utility := fun call =>
  let flags := flagsOf "AbeEnstTuv" ""
    [('A', "show-all"), ('b', "number-nonblank"), ('E', "show-ends"), ('n', "number"),
      ('s', "squeeze-blank"), ('T', "show-tabs"), ('v', "show-nonprinting")]
  call.parsed flags 1 fun arguments =>
    let hasAny (letters : String) : Bool := letters.toList.any arguments.has
    let display : Display :=
      ⟨hasAny "nb", hasAny "b", hasAny "s", hasAny "AeE", hasAny "AtT", hasAny "Aetv"⟩
    let contents := call.contents arguments.operands
    let complaints := call.complaintsAbout Call.plainly contents
    let product := call.reads arguments.operands
      (call.success (display.lines 1 false (linesWithEnds contents.joined)))
    if call.joined && !complaints.isEmpty && !display.numbered then
      let pieces := contents.flatMap fun
        | (_, .ok data) => display.lines 1 false (linesWithEnds data)
        | (path, .error failure) => call.complaint (Call.plainly path failure)
      { product with output := pieces, status := .code 1 }
    else product.spoiled 1 complaints

/-- Copy the input to the output and to files. -/
def tee : Utility := fun call =>
  let flags := flagsOf "aip" "" [('a', "append"), ('i', "ignore-interrupts")]
  call.parsed flags 1 fun arguments =>
    let (files, complaints) := arguments.operands.foldl (fun (files, complaints) path =>
      let old := if arguments.has 'a' then (contentsOf files path).toOption.getD [] else []
      match files.write path (old ++ call.input) with
      | .ok files => (files, complaints)
      | .error failure => (files, complaints ++ call.complaint (Call.plainly path failure)))
      (call.files, [])
    { (call.success call.input).exhausted.spoiled 1 complaints with files }

/-- The pieces of some data that end with a separator; `current` is the piece being read, last byte
first, and `left` the number of bytes of the separator at its end that are still to come. -/
def piecesAfter (separator : Bytes) : (current : Bytes) → (left : Nat) → Bytes → List Bytes
  | current, _, [] => if current.isEmpty then [] else [current.reverse]
  | current, left, b :: rest =>
    let left := if left = 0 && separator.isPrefixOf (b :: rest) then separator.length else left
    if left = 1 then (b :: current).reverse :: piecesAfter separator [] 0 rest
    else piecesAfter separator (b :: current) (left - 1) rest

/-- The pieces of some data that begin with a separator. -/
def piecesBefore (separator : Bytes) : (current : Bytes) → Bytes → List Bytes
  | current, [] => if current.isEmpty then [] else [current.reverse]
  | current, b :: rest =>
    if separator.isPrefixOf (b :: rest) && !current.isEmpty then
      current.reverse :: piecesBefore separator [b] rest
    else piecesBefore separator (b :: current) rest

/-- Copy the lines of operands, or pieces with another separator, the last one first. -/
def tac : Utility := fun call =>
  let flags := flagsOf "br" "s"
    [('b', "before"), ('r', "regex"), ('s', "separator")]
  call.parsed flags 1 fun arguments =>
    let separator := utf8 ((arguments.value? 's').getD "\n")
    let separator := if separator.isEmpty then [0] else separator
    let backwards (data : Bytes) : Bytes :=
      let pieces := if arguments.has 'b' then piecesBefore separator [] data
        else piecesAfter separator [] 0 data
      pieces.reverse.flatten
    let contents := call.contents arguments.operands
    let output := contents.good.flatMap fun (_, data) => backwards data
    (call.reads arguments.operands (call.success output)).spoiled 1
      (call.complaintsAbout (fun path failure =>
        if failure = .system .isDirectory then
          s!"{quotedIfNeeded path}: read error: {failure.description}"
        else s!"failed to open {quoted path} for reading: {failure.description}") contents)

/-- Copy lines with their characters in the reverse order. -/
def rev : Utility := fun call =>
  call.parsed [] 1 fun arguments =>
    let backwards (line : Bytes) : Bytes :=
      if line.getLast? = some Input.newline then line.dropLast.reverse ++ [Input.newline]
      else line.reverse
    let contents := call.contents arguments.operands
    let output := (linesWithEnds contents.joined).flatMap backwards
    (call.reads arguments.operands (call.success output)).spoiled 1
      (call.complaintsAbout (fun path failure =>
        s!"cannot open {path}: {failure.description}") contents)

/-- Which lines of a section have numbers. -/
inductive NumberStyle where
  /-- All lines. -/
  | all
  /-- Lines that are not empty. -/
  | filled
  /-- No line. -/
  | never
  /-- Lines that match an expression. -/
  | matching (regular : Regular)

namespace NumberStyle

/-- Read a style. -/
def read? (text : String) : Option NumberStyle :=
  match text.toList with
  | ['a'] => some .all
  | ['t'] => some .filled
  | ['n'] => some .never
  | 'p' :: expression =>
    (Regular.read false (Utf8.encode expression)).toOption.map .matching
  | _ => none

/-- A line has a number. -/
def marks (style : NumberStyle) (line : Bytes) : Bool :=
  match style with
  | .all => true
  | .filled => !line.isEmpty
  | .never => false
  | .matching regular => (Regular.search? ⟨line.toArray, false, false⟩ regular 0).isSome

end NumberStyle

/-- How `nl` numbers lines. -/
structure Numbering where
  /-- The styles of sections: headers, bodies and footers. -/
  styles : List NumberStyle
  /-- The characters that mark sections. -/
  delimiter : Bytes
  /-- The first number. -/
  start : Int
  /-- Numbers begin again with each section. -/
  restarts : Bool
  /-- The width of the numbers. -/
  width : Nat
  /-- What stands after the numbers. -/
  separator : String
  /-- The difference of one number and the next. -/
  increment : Int
  /-- How numbers are filled up: `ln`, `rn` or `rz`. -/
  form : String

namespace Numbering

/-- The section that a line begins, if it does so. -/
def section? (numbering : Numbering) (line : Bytes) : Option Nat :=
  let times (n : Nat) : Bytes := (List.replicate n numbering.delimiter).flatten
  if numbering.delimiter.isEmpty then none
  else if line = times 3 then some 0
  else if line = times 2 then some 1
  else if line = times 1 then some 2
  else none

/-- A number as it is shown. -/
def shown (numbering : Numbering) (number : Int) : String :=
  let digits := toString number
  match numbering.form with
  | "ln" => paddedRight numbering.width digits
  | "rz" =>
    let (sign, size) := if number < 0 then ("-", toString (-number)) else ("", digits)
    sign ++ "".pushn '0' (numbering.width - sign.length - size.length) ++ size
  | _ => padded numbering.width digits

/-- Lines with numbers; the first line belongs to a section. -/
def lines (numbering : Numbering) : (part : Nat) → (number : Int) → List Bytes → Bytes
  | _, _, [] => []
  | part, number, line :: rest =>
    match numbering.section? line with
    | some part =>
      Input.newline ::
        numbering.lines part (if numbering.restarts then numbering.start else number) rest
    | none =>
      if (numbering.styles[part]?).any (·.marks line) then
        utf8 (numbering.shown number ++ numbering.separator) ++ line ++ [Input.newline] ++
          numbering.lines part (number + numbering.increment) rest
      else
        utf8 ("".pushn ' ' (numbering.width + numbering.separator.utf8ByteSize)) ++ line ++
          [Input.newline] ++ numbering.lines part number rest

end Numbering

/-- Copy lines with numbers. -/
def nl : Utility := fun call =>
  let flags := flagsOf "p" "bdfhilnsvw"
    [('b', "body-numbering"), ('i', "line-increment"), ('n', "number-format"),
      ('s', "number-separator"), ('v', "starting-line-number"), ('w', "number-width"),
      ('h', "header-numbering"), ('f', "footer-numbering"), ('d', "section-delimiter"),
      ('p', "no-renumber")]
  call.parsed flags 1 fun arguments =>
    let number (letter : Char) (usual : Int) : Option Int :=
      match arguments.value? letter with
      | some text => text.toInt?
      | none => some usual
    let styles := [('h', "n"), ('b', "t"), ('f', "n")].mapM fun (letter, usual) =>
      NumberStyle.read? ((arguments.value? letter).getD usual)
    let delimiter := (arguments.value? 'd').getD "\\:"
    let delimiter := if delimiter.length = 1 then delimiter ++ ":" else delimiter
    let form := (arguments.value? 'n').getD "rn"
    match styles, number 'v' 1, number 'i' 1, number 'w' 6 with
    | none, _, _, _ => call.misused 1 "invalid numbering style"
    | _, none, _, _ => call.refused 1 "invalid starting line number"
    | _, _, none, _ => call.refused 1 "invalid line number increment"
    | some styles, some start, some increment, some width =>
      if width ≤ 0 then call.refused 1 "invalid line number field width"
      else if !(["ln", "rn", "rz"].contains form) then
        call.misused 1 s!"invalid line numbering format: {quoted form}"
      else
        let numbering : Numbering :=
          { styles, delimiter := utf8 delimiter, start, restarts := !arguments.has 'p'
            width := width.toNat, separator := (arguments.value? 's').getD "\t", increment, form }
        call.onContents 1 arguments.operands fun data => numbering.lines 1 start (linesOf data)
    | _, _, _, none => call.refused 1 "invalid line number field width"

end CommandShell.Programs
