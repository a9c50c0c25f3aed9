import CommandShell.Programs.Arguments
import CommandShell.Programs.Records.Evaluation

/-!
# Applying Rules to Records

How the rules of a program select records: some before the first record, then those that fit for
each record, and some after the last one. `awk` is the program that does this with its arguments.
-/

namespace CommandShell.Programs.Records

/-- How deep expressions and statements may be nested, and functions may call each other. -/
def nestingLimit : Nat := 40000

namespace Setting

/-- Carry out the action of a rule. -/
def act (setting : Setting) (rule : Rule) : Run Unit :=
  match rule.action with
  | some body => execute setting nestingLimit body
  | none => execute setting nestingLimit (.print [] .output)

/-- An expression is true. -/
def holds (setting : Setting) (test : Term) : Run Bool :=
  return (← evaluate setting nestingLimit test).isTrue

/-- The rule with a number selects the record. -/
def selects (setting : Setting) (number : Nat) : Selector → Run Bool
  | .atBegin | .atEnd => return false
  | .all => return true
  | .when test => setting.holds test
  | .between first last => do
    let isRunning := (← get).running.contains number
    let begins ← if isRunning then pure true else setting.holds first
    if begins then do
      let ends ← setting.holds last
      modify fun machine => { machine with
        running := if ends then machine.running.filter (· != number)
          else if isRunning then machine.running else number :: machine.running }
    return begins

/-- Apply the rules to the record. -/
def applyAll (setting : Setting) (rules : List Rule) : Run Unit :=
  rules.zipIdx.forM fun (rule, number) => do
    if ← setting.selects number rule.selector then setting.act rule

/-- Apply the rules to the next record, if there is one. -/
def applyNext (setting : Setting) (rules : List Rule) : Run Bool := do
  match ← Run.nextRecord with
  | none => return false
  | some record => do
    modify fun machine => ((machine.counted "NR").counted "FNR").setRecord record
    match ← Run.attempt (setting.applyAll rules) with
    | none | some .next => return true
    | some stop => throw stop

end Setting

/-- The rule is carried out before the first record. -/
def Rule.isFirst (rule : Rule) : Bool :=
  match rule.selector with
  | .atBegin => true
  | _ => false

/-- The rule is carried out after the last record. -/
def Rule.isLast (rule : Rule) : Bool :=
  match rule.selector with
  | .atEnd => true
  | _ => false

/-- Run a program from its beginning to its end. -/
def Source.run (source : Source) (launch : Launch) : Run Unit := do
  let setting : Setting := ⟨source.functions, launch⟩
  let needsRecords := source.rules.any (!·.isFirst)
  let before : Run Unit := do
    (source.rules.filter (·.isFirst)).forM setting.act
    if needsRecords then Run.goThrough Run.mostRounds (setting.applyNext source.rules)
  match ← Run.attempt before with
  | some .fault => pure ()
  | _ => do
    let _ ← Run.attempt ((source.rules.filter (·.isLast)).forM setting.act)

/-- The variables that are there before a program runs. -/
def usualVariables : List (String × Scalar) :=
  [ ("FS", .text [0x20]), ("OFS", .text [0x20]), ("RS", .text [0x0A]), ("ORS", .text [0x0A]),
    ("NR", .number 0), ("FNR", .number 0), ("SUBSEP", .text [0x1C]), ("RSTART", .number 0),
    ("RLENGTH", .number (-1)), ("CONVFMT", .text (utf8 "%.6g")), ("OFMT", .text (utf8 "%.6g")) ]

/-- A run of a program with operands that has not begun yet. -/
def Machine.start (call : Call) (operands : List String) : Machine :=
  let words := (call.baseName :: operands).map fun word => Scalar.ofInput (utf8 word)
  let numbered : Table := (Table.ofList words).map fun element =>
    let number := ((lossyText element.key.text).toNat?.getD 1) - 1
    { element with key := ⟨utf8 (toString number), true⟩ }
  let named : Table := call.bindings.map fun (name, value) =>
    ⟨⟨utf8 name, false⟩, Scalar.ofInput (utf8 value)⟩
  let machine : Machine :=
    { call, files := call.files, input := call.input, written := [], printed := [], complaints := []
      globals := [("ARGV", ⟨.unset, 0⟩), ("ENVIRON", ⟨.unset, 1⟩)], frame := []
      tables := #[numbered, named], record := [], fields := #[], sources := [], sinks := []
      current := none, operand := 1, hasRead := false, running := [], code := 0 }
  (usualVariables ++ [("ARGC", Scalar.number (Float.ofNat words.length))]).foldl
    (fun machine (name, value) => machine.setGlobal name value) machine

/-- What a run leaves behind. -/
def Machine.product (machine : Machine) : Product :=
  { output := machine.written.reverse.flatten, complaints := machine.complaints.reverse.flatten
    status := .code machine.code, files := machine.files, unread := machine.input }

/-- Apply the rules of a program, which is given as an argument or in files, to the records of the
operands or of the input. -/
def awk (launch : Launch) : Utility := fun call =>
  match Arguments.readLeading (flagsOf "" "FvfW" []) call.args with
  | .error text => call.refused 2 text
  | .ok arguments =>
    let files := arguments.values 'f'
    let fromFiles (path : String) : Except String String :=
      let data := if path = "-" then .ok call.input else contentsOf call.files path
      match data with
      | .ok bytes => .ok (lossyText bytes ++ "\n")
      | .error failure => .error s!"cannot open \"{path}\" ({failure.description})"
    let given : Except String (Option (String × List String)) :=
      match files, arguments.operands with
      | [], [] => .ok none
      | [], text :: operands => .ok (some (text, operands))
      | _, operands => (files.mapM fromFiles).map fun texts => some (String.join texts, operands)
    match given with
    | .error text => call.refused 2 text
    | .ok none => call.success []
    | .ok (some (text, operands)) =>
      match readSource text with
      | none => call.refused 2 "syntax error"
      | some source =>
        let machine := Machine.start call operands
        let machine := (arguments.value? 'F').elim machine fun separator =>
          (machine.assigned? s!"FS={separator}").getD machine
        let machine := (arguments.values 'v').foldl (fun machine assignment =>
          (machine.assigned? assignment).getD machine) machine
        let (_, machine) := ((source.run launch).run.run machine : Id (Except Stop Unit × Machine))
        (machine.closeAll launch).product

end CommandShell.Programs.Records
