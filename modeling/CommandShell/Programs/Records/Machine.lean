import CommandShell.Programs.Records.Lexer
import CommandShell.Programs.Records.Table
import CommandShell.Programs.Call
import CommandShell.Programs.Regular.Matching

/-!
# Records and Fields

What a program on records works on: variables and arrays, the record and its fields, and the files
and commands that it reads from and writes to. The record and its fields go together: each of them
follows when the other one changes.
-/

namespace CommandShell.Programs.Records

/-- A variable: its value, and the number of the array of the same name. -/
structure Cell where
  /-- The value. -/
  value : Scalar
  /-- The number of the array. -/
  table : Nat

/-- Where texts come from or go to. -/
structure Channel where
  /-- It is a command, not a file. -/
  isCommand : Bool
  /-- The command or the path. -/
  name : String
  deriving DecidableEq, Repr

/-- What is open for reading: what is left, and the code that a command has ended with. -/
structure Source.Open where
  /-- Where it comes from. -/
  channel : Channel
  /-- What is left. -/
  rest : Bytes
  /-- The code of the command. -/
  code : Int

/-- What is open for writing. -/
structure Sink where
  /-- Where it goes to. -/
  channel : Channel
  /-- What has not been passed on yet, last piece first. -/
  pending : List Bytes

/-- The state of a run. -/
structure Machine where
  /-- The call of the program. -/
  call : Call
  /-- The files. -/
  files : Files
  /-- What is left of the input. -/
  input : Bytes
  /-- What has been passed on to the output, last piece first. -/
  written : List Bytes
  /-- What has been printed since then, last piece first. -/
  printed : List Bytes
  /-- What has been complained about, last piece first. -/
  complaints : List Bytes
  /-- The variables of the whole program. -/
  globals : List (String × Cell)
  /-- The variables of the function. -/
  frame : List (String × Cell)
  /-- The arrays. -/
  tables : Array Table
  /-- The record. -/
  record : Bytes
  /-- The fields of the record. -/
  fields : Array Scalar
  /-- What is open for reading. -/
  sources : List Source.Open
  /-- What is open for writing, what was used last first. -/
  sinks : List Sink
  /-- What is left of the operand that is being read. -/
  current : Option Bytes
  /-- The number of the operand that comes next. -/
  operand : Nat
  /-- An operand has been read, or the input in place of them. -/
  hasRead : Bool
  /-- The rules that are between their first and last records. -/
  running : List Nat
  /-- The code to end with. -/
  code : UInt8

/-- Why a run does not go on as usual. -/
inductive Stop where
  /-- It goes on with the next record. -/
  | next
  /-- It ends. -/
  | exit
  /-- A function has its value. -/
  | value (value : Scalar)
  /-- A loop is left. -/
  | leaveLoop
  /-- A loop goes on with its next round. -/
  | continueLoop
  /-- There was a mistake. -/
  | fault

/-- What is done in a run. -/
abbrev Run := ExceptT Stop (StateM Machine)

/-- How fields are told apart. -/
inductive Separator where
  /-- By blanks. -/
  | blanks
  /-- Each byte is a field. -/
  | nothing
  /-- By what matches an expression. -/
  | matching (regular : Regular)

/-- The regular expression that matches a byte. -/
def byteRegular (b : UInt8) : Regular := .byte (.single b)

/-- The separator that a text is. -/
def Separator.ofBytes : Bytes → Separator
  | [] => .nothing
  | [0x20] => .blanks
  | [b] => .matching (byteRegular b)
  | text => (regularOf? text).elim .blanks .matching

/-- The first match that is not empty, from a position on. -/
def nextMatch (subject : Regular.Subject) (regular : Regular) (start : Nat) : Option (Nat × Nat) :=
  Regular.searchFrom subject regular (fun start stop => start < stop)
    (subject.bytes.size + 1 - start) start

/-- The parts of a text between matches; `fuel` bounds their number. -/
def partsBetween (subject : Regular.Subject) (regular : Regular) : (fuel start : Nat) → List Bytes
  | 0, start => [subject.part start subject.bytes.size]
  | fuel + 1, start =>
    match nextMatch subject regular start with
    | none => [subject.part start subject.bytes.size]
    | some (first, last) => subject.part start first :: partsBetween subject regular fuel last

/-- A byte between fields. -/
def isFieldBlank (b : UInt8) : Bool := b = 0x20 || b = 0x09 || b = 0x0A

/-- The parts of a text between blanks; `fuel` bounds their number. -/
def partsBetweenBlanks : (fuel : Nat) → Bytes → List Bytes
  | 0, _ => []
  | fuel + 1, text =>
    let text := text.dropWhile isFieldBlank
    let first := text.takeWhile (!isFieldBlank ·)
    if first.isEmpty then [] else first :: partsBetweenBlanks fuel (text.drop first.length)

/-- A text as one in which matches are looked for. -/
def subjectOf (text : Bytes) : Regular.Subject := ⟨text.toArray, false, false⟩

/-- Cut a text into fields. -/
def Separator.split (separator : Separator) (text : Bytes) : List Bytes :=
  if text.isEmpty then []
  else
    match separator with
    | .blanks => partsBetweenBlanks (text.length + 1) text
    | .nothing => text.map fun b => [b]
    | .matching regular => partsBetween (subjectOf text) regular (text.length + 1) 0

/-- A newline also ends a field. -/
def Separator.orNewline : Separator → Separator
  | .matching regular => .matching (.either regular (byteRegular Input.newline))
  | separator => separator

/-- The first record of a text and what is left, as a text ends records. An empty text stands for
lines without anything on them. -/
def takeRecord (ending data : Bytes) : Option (Bytes × Bytes) :=
  let upTo (regular : Regular) (data : Bytes) : Bytes × Bytes :=
    let subject := subjectOf data
    match nextMatch subject regular 0 with
    | none => (data, [])
    | some (first, last) => (subject.part 0 first, subject.part last subject.bytes.size)
  match ending, data with
  | _, [] => none
  | [], _ =>
    let newline := byteRegular Input.newline
    let (record, rest) := upTo (.both newline (.times newline 1 none))
      (data.dropWhile (· == Input.newline))
    let record := if record.getLast? = some Input.newline then record.dropLast else record
    if record.isEmpty then none else some (record, rest)
  | [b], _ =>
    let record := data.takeWhile (· != b)
    some (record, data.drop (record.length + 1))
  | _, _ => some (upTo ((regularOf? ending).getD .empty) data)

namespace Machine

/-- Set a variable of the whole program, or make one. -/
def setGlobal (machine : Machine) (name : String) (value : Scalar) : Machine :=
  match machine.globals.lookup name with
  | some _ =>
    { machine with globals := machine.globals.map fun (other, cell) =>
        if other = name then (other, { cell with value }) else (other, cell) }
  | none =>
    { machine with
      globals := (name, ⟨value, machine.tables.size⟩) :: machine.globals
      tables := machine.tables.push [] }

/-- The value of a variable of the whole program. -/
def global (machine : Machine) (name : String) : Scalar :=
  ((machine.globals.lookup name).map (·.value)).getD .unset

/-- The format of numbers that become texts. -/
def conversionFormat (machine : Machine) : Bytes :=
  match machine.global "CONVFMT" with
  | .text bytes | .either bytes _ => bytes
  | _ => utf8 "%.6g"

/-- A value as a text. -/
def textOf (machine : Machine) (value : Scalar) : Bytes :=
  value.toText machine.conversionFormat

/-- The text of a variable of the whole program. -/
def globalText (machine : Machine) (name : String) : Bytes :=
  machine.textOf (machine.global name)

/-- The variable with a name, which there is from then on. -/
def cell (machine : Machine) (name : String) : Cell × Machine :=
  match machine.frame.lookup name, machine.globals.lookup name with
  | some cell, _ | none, some cell => (cell, machine)
  | none, none =>
    let made := machine.setGlobal name .unset
    (⟨.unset, machine.tables.size⟩, made)

/-- What tells fields apart. -/
def separator (machine : Machine) : Separator :=
  let separator := Separator.ofBytes (machine.globalText "FS")
  if (machine.globalText "RS").isEmpty then separator.orNewline else separator

/-- Replace the record; the fields follow. -/
def setRecord (machine : Machine) (record : Bytes) : Machine :=
  { machine with record, fields := (machine.separator.split record).toArray.map Scalar.ofInput }

/-- Replace the fields; the record follows. -/
def setFields (machine : Machine) (fields : Array Scalar) : Machine :=
  let between := machine.globalText "OFS"
  let record := between.intercalate (fields.toList.map machine.textOf)
  { machine with fields, record }

/-- The most fields that a record can have. -/
def fieldLimit : Nat := 100000

/-- The fields, so many of them. -/
def resized (machine : Machine) (count : Nat) : Array Scalar :=
  let fields := machine.fields.take count
  fields ++ Array.replicate (min count fieldLimit - fields.size) (.text [])

/-- A field of the record; the field 0 is the record. -/
def field (machine : Machine) (position : Nat) : Scalar :=
  if position = 0 then .ofInput machine.record else machine.fields.getD (position - 1) .unset

/-- Replace a field of the record. -/
def setField (machine : Machine) (position : Nat) (value : Scalar) : Machine :=
  if position = 0 then machine.setRecord (machine.textOf value)
  else
    let fields := machine.resized (max position machine.fields.size)
    machine.setFields (fields.setIfInBounds (position - 1) value)

/-- Set a variable that is not one of a function. The number of fields changes the record. -/
def setVariable (machine : Machine) (name : String) (value : Scalar) : Machine :=
  if name = "NF" then
    machine.setFields (machine.resized ((wholeOf? value.toNumber).getD 0).toNat)
  else machine.setGlobal name value

/-- Pass on what has been printed, and what goes to files. -/
def flush (machine : Machine) : Machine :=
  let passOn (files : Files) (sink : Sink) : Files :=
    if sink.channel.isCommand || sink.pending.isEmpty then files
    else
      let before := (contentsOf files sink.channel.name).toOption.getD []
      (files.write sink.channel.name (before ++ sink.pending.reverse.flatten)).toOption.getD files
  { machine with
    written := machine.printed ++ machine.written
    printed := []
    files := machine.sinks.reverse.foldl passOn machine.files
    sinks := machine.sinks.map fun sink =>
      if sink.channel.isCommand then sink else { sink with pending := [] } }

/-- How a number tells the way in which a command has ended. -/
def codeOf : ExitStatus → Int
  | .code code => code.toNat
  | .signal signal => 256 + signal

/-- Run a command: what it has written, the code it has ended with, and what follows. -/
def runCommand (launch : Launch) (machine : Machine) (text : String) (input : Option Bytes) :
    Bytes × Int × Machine :=
  let machine := machine.flush
  let call := { machine.call with
    name := "sh", args := ["-c", text], files := machine.files
    input := input.getD machine.input, inputSize := none }
  match launch call with
  | .error _ => ([], 127, machine)
  | .ok product =>
    let left := if input.isNone then product.unread else machine.input
    (product.output, codeOf product.status,
      { machine with
        files := product.files
        complaints := product.complaints :: machine.complaints
        input := left })

/-- Close what goes to a channel: the code of a command. -/
def closeSink (launch : Launch) (machine : Machine) (channel : Channel) : Int × Machine :=
  match machine.sinks.find? (·.channel == channel) with
  | none => (-1, machine)
  | some sink =>
    let machine := machine.flush
    let closed := { machine with sinks := machine.sinks.filter (·.channel != channel) }
    if channel.isCommand then
      let (output, code, machine) :=
        closed.runCommand launch channel.name (some sink.pending.reverse.flatten)
      (code, { machine with written := output :: machine.written })
    else (0, closed)

/-- Close all that is open for writing; what has been printed is passed on after it. -/
def closeAll (launch : Launch) (machine : Machine) : Machine :=
  let files := (machine.sinks.filter (!·.channel.isCommand)).map (·.channel)
  let commands := (machine.sinks.filter (·.channel.isCommand)).map (·.channel)
  let printed := machine.printed
  let close (machine : Machine) (channel : Channel) : Machine :=
    (machine.closeSink launch channel).2
  let machine := (files ++ commands).foldl close { machine with printed := [] }
  ({ machine with printed } : Machine).flush

/-- Set a variable as an operand tells, if it does. -/
def assigned? (machine : Machine) (operand : String) : Option Machine :=
  let name := operand.toList.takeWhile Text.isNameChar
  match operand.toList.drop name.length with
  | '=' :: value =>
    if name.head?.any Text.isNameStart then
      let bytes := Utf8.encode value
      let value := Scalar.ofInput (replaceEscapes false bytes.length bytes)
      some (machine.setVariable (String.ofList name) value)
    else none
  | _ => none

/-- The operand with a number. -/
def operandAt (machine : Machine) (position : Nat) : Bytes :=
  let (cell, machine) := machine.cell "ARGV"
  let table := machine.tables.getD cell.table []
  match table.find? ⟨utf8 (toString position), true⟩ with
  | some element => machine.textOf element.value
  | none => []

/-- How many operands there are, the name of the program among them. -/
def operandCount (machine : Machine) : Nat :=
  ((wholeOf? (machine.global "ARGC").toNumber).getD 0).toNat

/-- Open the next operand, or the input if there is none at all: whether there is something to
read; `fuel` bounds the number of operands. -/
def openNext : (fuel : Nat) → Machine → Except String (Option Bytes × Machine)
  | 0, machine => .ok (none, machine)
  | fuel + 1, machine =>
    let asInput (machine : Machine) : Except String (Option Bytes × Machine) :=
      .ok (some machine.input, { machine with input := [], hasRead := true })
    if machine.operand < machine.operandCount then
      let operand := lossyText (machine.operandAt machine.operand)
      let machine := { machine with operand := machine.operand + 1 }
      if operand.isEmpty then openNext fuel machine
      else
        match machine.assigned? operand with
        | some machine => openNext fuel machine
        | none =>
          let machine := (machine.setGlobal "FILENAME" (.text (utf8 operand))).setGlobal "FNR"
            (.number 0)
          if operand = "-" || operand = "/dev/stdin" then asInput machine
          else
            match contentsOf machine.files operand with
            | .ok data => .ok (some data, { machine with hasRead := true })
            | .error failure =>
              .error s!"cannot open \"{operand}\" ({failure.description})"
    else if machine.hasRead then .ok (none, machine)
    else asInput (machine.setGlobal "FILENAME" (.text (utf8 "-")))

/-- Take the next record of the operands; `fuel` bounds the number of operands. -/
def nextRecord : (fuel : Nat) → Machine → Except String (Option Bytes × Machine)
  | 0, machine => .ok (none, machine)
  | fuel + 1, machine => do
    let found := machine.current.bind (takeRecord (machine.globalText "RS"))
    match found with
    | some (record, rest) => return (some record, { machine with current := some rest })
    | none =>
      match ← openNext (machine.operandCount + 1) machine with
      | (some data, machine) => nextRecord fuel { machine with current := some data }
      | (none, machine) => return (none, { machine with current := none })

/-- Increase a variable by one. -/
def counted (machine : Machine) (name : String) : Machine :=
  machine.setGlobal name (.number ((machine.global name).toNumber + 1))

end Machine

end CommandShell.Programs.Records
