import CommandShell.Programs.Records.Function
import CommandShell.Programs.Records.Reader

/-!
# Evaluation of Programs on Records

How expressions get their values and statements are carried out. How deep they may be nested, and
functions may call each other, is bounded, and so is the number of rounds of a loop.
-/

namespace CommandShell.Programs.Records

/-- A place that can get a value, with its keys known. -/
inductive Spot where
  /-- A variable. -/
  | variable (name : String)
  /-- A field of the record. -/
  | field (position : Nat)
  /-- An element of the array with a number. -/
  | element (table : Nat) (key : Key)

namespace Run

/-- Complain and end because of it. -/
def fail {α : Type} (text : String) : Run α := do
  modify fun machine => { machine with
    complaints := machine.call.complaint text :: machine.complaints, code := 2 }
  throw .fault

/-- Run something to its end: why it has stopped, if it has. -/
def attempt (body : Run Unit) : Run (Option Stop) :=
  tryCatch (body *> pure none) fun stop => pure (some stop)

/-- The variable with a name. -/
def cell (name : String) : Run Cell := modifyGet fun machine => machine.cell name

/-- A value as a text. -/
def textOf (value : Scalar) : Run Bytes := return (← get).textOf value

/-- A value as the name of a file or of a command. -/
def nameOf (value : Scalar) : Run String := return lossyText (← textOf value)

/-- Values as a key. -/
def keyOf (values : List Scalar) : Run Key := do
  let machine ← get
  match values with
  | [.number n] => return ⟨machine.textOf (.number n), (wholeOf? n).any (Float.ofInt · == n)⟩
  | _ =>
    return ⟨(machine.globalText "SUBSEP").intercalate (values.map machine.textOf), false⟩

/-- Change an array. -/
def changeTable (table : Nat) (change : Table → Table) : Run Unit :=
  modify fun machine => { machine with tables := machine.tables.modify table change }

/-- The value of a place. -/
def read : Spot → Run Scalar
  | .variable name => do
    if name = "NF" then return .number (Float.ofNat (← get).fields.size)
    else return (← cell name).value
  | .field position => return (← get).field position
  | .element table key => modifyGet fun machine =>
    let (value, elements) := (machine.tables.getD table []).use key
    (value, { machine with tables := machine.tables.setIfInBounds table elements })

/-- Give a place a value. -/
def write (value : Scalar) : Spot → Run Unit
  | .variable name => modify fun machine =>
    match machine.frame.lookup name with
    | some cell =>
      let frame := machine.frame.map fun (other, old) =>
        if other = name then (other, { cell with value }) else (other, old)
      { machine with frame }
    | none => machine.setVariable name value
  | .field position => modify (·.setField position value)
  | .element table key => changeTable table (·.put key value)

/-- The most rounds of a loop. -/
def mostRounds : Nat := Nat.pow 2 24

/-- Go through rounds as long as they say that there is another one. -/
def goThrough : (rounds : Nat) → Run Bool → Run Unit
  | 0, _ => throw .fault
  | rounds + 1, round => do
    if ← round then goThrough rounds round

/-- Run a round of a loop: whether the loop goes on after it. -/
def runRound (body : Run Unit) : Run Bool := do
  match ← attempt body with
  | none | some .continueLoop => return true
  | some .leaveLoop => return false
  | some stop => throw stop

/-- Run a round of a loop for each of some values. -/
def runEach (body : Scalar → Run Unit) : List Scalar → Run Unit
  | [] => pure ()
  | value :: rest => do
    if ← runRound (body value) then runEach body rest

/-- What is open for writing at a channel is used; it is opened if it is not open yet. -/
def openSink (channel : Channel) (atEnd : Bool) : Run Unit := do
  let machine ← get
  match machine.sinks.find? (·.channel == channel) with
  | some sink =>
    set { machine with sinks := sink :: machine.sinks.filter (·.channel != channel) }
  | none =>
    let machine := if channel.isCommand then machine.flush else machine
    let opened := { machine with sinks := ⟨channel, []⟩ :: machine.sinks }
    let before := (contentsOf machine.files channel.name).toOption.getD []
    if channel.isCommand then set opened
    else
      match machine.files.write channel.name (if atEnd then before else []) with
      | .ok files => set { opened with files }
      | .error failure => fail s!"cannot open \"{channel.name}\" ({failure.description})"

/-- Print something at a channel. -/
def emitTo (channel : Channel) (atEnd : Bool) (bytes : Bytes) : Run Unit := do
  if channel = ⟨false, "/dev/stdout"⟩ then
    modify fun machine => { machine with printed := bytes :: machine.printed }
  else if channel = ⟨false, "/dev/stderr"⟩ then
    modify fun machine => { machine with complaints := bytes :: machine.complaints }
  else do
    openSink channel atEnd
    modify fun machine => { machine with
      sinks := machine.sinks.map fun sink =>
        if sink.channel = channel then { sink with pending := bytes :: sink.pending } else sink }

/-- Take the next record of the operands. -/
def nextRecord : Run (Option Bytes) := do
  let machine ← get
  match machine.nextRecord (machine.operandCount + 2) with
  | .error text => fail text
  | .ok (record, machine) => do
    set machine
    return record

/-- Take the next record of a channel: nothing if it cannot be opened, and no record at its end. -/
def recordOf (launch : Launch) (channel : Channel) : Run (Option (Option Bytes)) := do
  let machine ← get
  let opened : Option (Source.Open × Machine) :=
    match machine.sources.find? (·.channel == channel) with
    | some source => some (source, machine)
    | none =>
      if channel.isCommand then
        let (output, code, machine) := machine.runCommand launch channel.name none
        some (⟨channel, output, code⟩, machine)
      else if channel.name = "-" || channel.name = "/dev/stdin" then
        some (⟨channel, machine.input, 0⟩, { machine with input := [] })
      else
        (contentsOf machine.files channel.name).toOption.map fun data =>
          (⟨channel, data, 0⟩, machine)
  match opened with
  | none => return none
  | some (source, machine) =>
    let taken := takeRecord (machine.globalText "RS") source.rest
    let rest := (taken.map (·.2)).getD []
    let others := machine.sources.filter (·.channel != channel)
    set { machine with sources := { source with rest } :: others }
    return some (taken.map (·.1))

/-- Close what is open under a name: the code of a command, or a number that tells that nothing is
open. -/
def close (launch : Launch) (name : String) : Run Int := do
  let machine ← get
  let source := machine.sources.find? (·.channel.name == name)
  let kept := { machine with sources := machine.sources.filter (·.channel.name != name) }
  match source, machine.sinks.find? (·.channel.name == name) with
  | some source, none => do
    set kept
    return source.code
  | _, some sink => modifyGet fun _ => kept.closeSink launch sink.channel
  | none, none => return -1

end Run

/-- What a program is run with. -/
structure Setting where
  /-- The functions of the program. -/
  functions : List Function
  /-- The way to call programs. -/
  launch : Launch

mutual

/-- The value of an expression. -/
def evaluate (setting : Setting) : (fuel : Nat) → Term → Run Scalar
  | 0, _ => throw .fault
  | fuel + 1, term =>
    let value (term : Term) : Run Scalar := evaluate setting fuel term
    match term with
    | .number n => return .number n
    | .text bytes => return .text bytes
    | .enclosed inner => value inner
    | .regular regular => do
      let subject := subjectOf (← get).record
      return .ofBool (Regular.search? subject regular 0).isSome
    | .place target => do Run.read (← resolve setting fuel target)
    | .assign target operator term => do
      let spot ← resolve setting fuel target
      let new ← value term
      let new ← match operator with
        | none => pure new
        | some operator => do
          let old ← Run.read spot
          pure (.number (calculate operator old.toNumber new.toNumber))
      Run.write new spot
      return new
    | .step isBefore amount target => do
      let spot ← resolve setting fuel target
      let old := (← Run.read spot).toNumber
      Run.write (.number (old + amount)) spot
      return .number (if isBefore then old + amount else old)
    | .unary operator operand => do
      let inner ← value operand
      match operator with
      | "!" => return .ofBool (!inner.isTrue)
      | "-" => return .number (-inner.toNumber)
      | _ => return .number inner.toNumber
    | .binary "&&" left right => do
      if (← value left).isTrue then return .ofBool (← value right).isTrue else return .ofBool false
    | .binary "||" left right => do
      if (← value left).isTrue then return .ofBool true else return .ofBool (← value right).isTrue
    | .binary operator left right => do
      let left ← value left
      let right ← value right
      if comparisonSigns.contains operator then
        return .ofBool (Scalar.compare (← get).conversionFormat operator left right)
      else return .number (calculate operator left.toNumber right.toNumber)
    | .join left right => do
      let left ← value left
      let right ← value right
      return .text ((← Run.textOf left) ++ (← Run.textOf right))
    | .fits negated subject expression => do
      let subject := subjectOf (← Run.textOf (← value subject))
      let regular ← expressionOf setting fuel expression
      return .ofBool ((Regular.search? subject regular 0).isSome != negated)
    | .member array keys => do
      let key ← Run.keyOf (← keys.mapM value)
      let cell ← Run.cell array
      return .ofBool (((← get).tables.getD cell.table []).find? key).isSome
    | .choose test left right => do
      if (← value test).isTrue then value left else value right
    | .call name arguments => callFunction setting fuel name arguments
    | .builtin name arguments => callBuiltin setting fuel name arguments
    | .readLine target source => do
      let taken ← match source with
        | none => return ← readMain setting fuel target
        | some (isCommand, term) => do
          let name ← Run.nameOf (← value term)
          Run.recordOf setting.launch ⟨isCommand, name⟩
      match taken with
      | none => return .number (-1)
      | some none => return .number 0
      | some (some record) => do
        match target with
        | none => modify (·.setRecord record)
        | some target => do
          let spot ← resolve setting fuel target
          Run.write (.ofInput record) spot
        if source.any (·.1) then modify (·.counted "NR")
        return .number 1

/-- Read the next record of the operands. -/
def readMain (setting : Setting) : (fuel : Nat) → Option Target → Run Scalar
  | 0, _ => throw .fault
  | fuel + 1, target => do
    match ← Run.nextRecord with
    | none => return .number 0
    | some record => do
      modify fun machine => (machine.counted "NR").counted "FNR"
      match target with
      | none => modify (·.setRecord record)
      | some target => do
        let spot ← resolve setting fuel target
        Run.write (.ofInput record) spot
      return .number 1

/-- The place that a target is. -/
def resolve (setting : Setting) : (fuel : Nat) → Target → Run Spot
  | 0, _ => throw .fault
  | fuel + 1, target =>
    match target with
    | .variable name => return .variable name
    | .field position => do
      let n := (← evaluate setting fuel position).toNumber
      match wholeOf? n with
      | some whole =>
        if whole < 0 then Run.fail s!"negative field index ${whole}"
        else return .field whole.toNat
      | none => Run.fail "field index is not a number"
    | .element array keys => do
      let key ← Run.keyOf (← keys.mapM (evaluate setting fuel))
      return .element (← Run.cell array).table key

/-- The regular expression that an expression is. -/
def expressionOf (setting : Setting) : (fuel : Nat) → Term → Run Regular
  | 0, _ => throw .fault
  | fuel + 1, term =>
    match term with
    | .regular regular | .enclosed (.regular regular) => return regular
    | term => do
      let text ← Run.textOf (← evaluate setting fuel term)
      match regularOf? text with
      | some regular => return regular
      | none => Run.fail s!"regular expression compile failed ({lossyText text})"

/-- Call a function of the program: arrays are handed over themselves, values are copied. -/
def callFunction (setting : Setting) : (fuel : Nat) → String → List Term → Run Scalar
  | 0, _, _ => throw .fault
  | fuel + 1, name, arguments => do
    let fresh (value : Scalar) : Run Cell := modifyGet fun machine =>
      (⟨value, machine.tables.size⟩, { machine with tables := machine.tables.push [] })
    match setting.functions.find? (·.name == name) with
    | none => Run.fail s!"function {name} never defined"
    | some function => do
      let given ← arguments.mapM fun argument =>
        match argument with
        | .place (.variable own) => do
          let cell ← Run.cell own
          return { cell with value := ← Run.read (.variable own) }
        | argument => do fresh (← evaluate setting fuel argument)
      let missing := function.parameters.length - given.length
      let others ← (List.replicate missing Scalar.unset).mapM fresh
      let frame := (← get).frame
      modify fun machine => { machine with frame := function.parameters.zip (given ++ others) }
      let stop ← Run.attempt (execute setting fuel function.body)
      modify fun machine => { machine with frame }
      match stop with
      | none => return .unset
      | some (.value value) => return value
      | some stop => throw stop

/-- Call a function that is always there. -/
def callBuiltin (setting : Setting) : (fuel : Nat) → String → List Term → Run Scalar
  | 0, _, _ => throw .fault
  | fuel + 1, name, arguments => do
    let value (term : Term) : Run Scalar := evaluate setting fuel term
    let replace (isGlobal : Bool) (pattern template : Term) (target : Target) : Run Scalar := do
      let regular ← expressionOf setting fuel pattern
      let template ← Run.textOf (← value template)
      let spot ← resolve setting fuel target
      let subject := subjectOf (← Run.textOf (← Run.read spot))
      let (text, count) := replaceMatches subject regular template isGlobal
        (subject.bytes.size * 2 + 2) 0 false
      if count != 0 then Run.write (.text text) spot
      return .number (Float.ofNat count)
    let line : Target := .field (.number 0)
    match name, arguments with
    | "length", [.place (.variable array)] => do
      let spot ← Run.read (.variable array)
      let table := (← get).tables.getD (← Run.cell array).table []
      match table with
      | [] => return .number (Float.ofNat (← Run.textOf spot).length)
      | _ => return .number (Float.ofNat table.length)
    | "split", subject :: .place (.variable array) :: rest => do
      let text ← Run.textOf (← value subject)
      let separator ← match rest with
        | [] => pure (Separator.ofBytes ((← get).globalText "FS"))
        | .regular regular :: _ => pure (.matching regular)
        | term :: _ => do pure (Separator.ofBytes (← Run.textOf (← value term)))
      let parts := separator.split text
      let table := (← Run.cell array).table
      Run.changeTable table fun _ => .ofList (parts.map .ofInput)
      return .number (Float.ofNat parts.length)
    | "sub", [pattern, template] => replace false pattern template line
    | "sub", [pattern, template, .place target] => replace false pattern template target
    | "gsub", [pattern, template] => replace true pattern template line
    | "gsub", [pattern, template, .place target] => replace true pattern template target
    | "match", [subject, pattern] => do
      let subject := subjectOf (← Run.textOf (← value subject))
      let found := Regular.search? subject (← expressionOf setting fuel pattern) 0
      let (start, size) : Int × Int := match found with
        | some found => (found.start + 1, found.stop - found.start)
        | none => (0, -1)
      Run.write (.number (Float.ofInt start)) (.variable "RSTART")
      Run.write (.number (Float.ofInt size)) (.variable "RLENGTH")
      return .number (Float.ofInt start)
    | "system", [command] => do
      let text ← Run.nameOf (← value command)
      let code ← modifyGet fun machine =>
        let (output, code, machine) := machine.runCommand setting.launch text none
        (code, { machine with written := output :: machine.written })
      return .number (Float.ofInt code)
    | "close", channel :: _ => do
      let name ← Run.nameOf (← value channel)
      return .number (Float.ofInt (← Run.close setting.launch name))
    | "fflush", _ => do
      modify (·.flush)
      return .number 0
    | name, arguments => do
      let values ← arguments.mapM value
      match compute (← get) name values with
      | some result => return result
      | none => Run.fail s!"improper arguments of {name}"

/-- Carry out a statement. -/
def execute (setting : Setting) : (fuel : Nat) → Statement → Run Unit
  | 0, _ => throw .fault
  | fuel + 1, statement =>
    let value (term : Term) : Run Scalar := evaluate setting fuel term
    let emit (outlet : Outlet) (bytes : Bytes) : Run Unit := do
      let go (isCommand atEnd : Bool) (term : Term) : Run Unit := do
        let name ← Run.nameOf (← value term)
        Run.emitTo ⟨isCommand, name⟩ atEnd bytes
      match outlet with
      | .output => modify fun machine => { machine with printed := bytes :: machine.printed }
      | .file path => go false false path
      | .append path => go false true path
      | .command text => go true false text
    match statement with
    | .nothing => pure ()
    | .evaluate term => do
      let _ ← value term
    | .print terms outlet => do
      let values ← terms.mapM value
      let machine ← get
      let format := match machine.global "OFMT" with
        | .text bytes => bytes
        | _ => machine.conversionFormat
      let texts := if terms.isEmpty then [machine.record] else values.map (·.toText format)
      emit outlet ((machine.globalText "OFS").intercalate texts ++ machine.globalText "ORS")
    | .printf terms outlet => do
      let values ← terms.mapM value
      match formatAllValues (← get) values with
      | some bytes => emit outlet bytes
      | none => Run.fail "run time error: not enough arguments passed to printf"
    | .branch test body otherwise => do
      if (← value test).isTrue then execute setting fuel body
      else execute setting fuel otherwise
    | .loop isLate test step body => do
      let round : Run Bool := do
        if ← Run.runRound (execute setting fuel body) then do
          execute setting fuel step
          if isLate then return (← value test).isTrue else return true
        else return false
      Run.goThrough Run.mostRounds do
        if isLate then round
        else if (← value test).isTrue then round
        else return false
    | .each name array body => do
      let table := (← get).tables.getD (← Run.cell array).table []
      Run.runEach (fun key => do
        Run.write key (.variable name)
        execute setting fuel body) (table.keys.map .ofInput)
    | .block body => body.forM (execute setting fuel)
    | .delete array keys => do
      let cell ← Run.cell array
      if keys.isEmpty then Run.changeTable cell.table fun _ => []
      else do
        let key ← Run.keyOf (← keys.mapM value)
        Run.changeTable cell.table (·.erase key)
    | .next => throw .next
    | .exit code => do
      match code with
      | none => pure ()
      | some term => do
        let whole := (wholeOf? (← value term).toNumber).getD 0
        modify fun machine => { machine with code := UInt8.ofNat (whole % 256).toNat }
      throw .exit
    | .leave term => do
      match term with
      | none => throw (.value .unset)
      | some term => throw (.value (← value term))
    | .leaveLoop => throw .leaveLoop
    | .continueLoop => throw .continueLoop

end

end CommandShell.Programs.Records
