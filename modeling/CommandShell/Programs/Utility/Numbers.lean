import CommandShell.Programs.Decimal
import CommandShell.Programs.Printf
import CommandShell.Programs.Utility.Size

/-!
# Numbers

Programs that print numbers: `seq` those from one to another one, `factor` the factors of numbers.
-/

namespace CommandShell.Programs

/-- A number that is given to `seq`. -/
structure SeqOperand where
  /-- The number. -/
  value : Decimal
  /-- How many characters it is written with. -/
  width : Nat
  deriving DecidableEq, Repr

/-- Read a number that is given to `seq`. -/
def SeqOperand.read? (text : String) : Option SeqOperand := do
  let chars := text.toList.dropWhile fun c => c = ' ' || c = '+'
  let value ← Decimal.read? chars
  return ⟨value, chars.length⟩

/-- The numbers from one to another one with a step, as integers. -/
def numbersBetween (first step last : Int) : List Int :=
  if step = 0 then []
  else
    let count := ((last - first) / step + 1).toNat
    (List.range count).map fun (i : Nat) => first + step * i

/-- A number with its places, filled up with zeros to a width. -/
def zeroPadded (width : Nat) (text : String) : String :=
  match text.toList with
  | '-' :: rest => "-" ++ "".pushn '0' (width - 1 - rest.length) ++ String.ofList rest
  | _ => "".pushn '0' (width - text.length) ++ text

/-- The arguments of `seq` with its options taken off; what looks like a negative number is no
option. -/
def splitSeqOptions : (fuel : Nat) → List String → Except String Arguments
  | 0, args => .ok ⟨[], args⟩
  | fuel + 1, args =>
    match args with
    | [] => .ok ⟨[], []⟩
    | arg :: rest =>
      let goOn (letter : Char) (value : String) (rest : List String) : Except String Arguments :=
        (splitSeqOptions fuel rest).map (·.adding letter value)
      match arg.toList with
      | '-' :: c :: chars =>
        if c.isDigit || c = '.' then .ok ⟨[], args⟩
        else if arg = "--" then .ok ⟨[], rest⟩
        else if arg = "-w" || arg = "--equal-width" then goOn 'w' "" rest
        else if c = 's' || c = 'f' then
          if !chars.isEmpty then goOn c (String.ofList chars) rest
          else
            match rest with
            | value :: rest => goOn c value rest
            | [] => .error s!"option requires an argument -- '{c}'"
        else if arg.startsWith "--separator=" then goOn 's' (arg.drop 12).toString rest
        else if arg.startsWith "--format=" then goOn 'f' (arg.drop 9).toString rest
        else if c = '-' then .error s!"unrecognized option '{arg}'"
        else .error s!"invalid option -- '{c}'"
      | _ => .ok ⟨[], args⟩

/-- Print a number by a format with a single conversion. -/
def formatNumber (format : String) (value : Decimal) : Option Bytes :=
  let (bytes, code) := printf .ofProgram [format, value.text]
  if code = 0 then some bytes else none

/-- Print the numbers from one to another one. -/
def seq : Utility := fun call =>
  match splitSeqOptions call.args.length call.args with
  | .error text => call.misused 1 text
  | .ok arguments =>
    let operands := arguments.operands
    let one : SeqOperand := ⟨⟨1, 0⟩, 1⟩
    let print (first step last : SeqOperand) : Product :=
      if step.value.units = 0 then
        let shown := (operands[1]?).getD ""
        call.misused 1 s!"invalid Zero increment value: {quoted shown}"
      else
        let places := max first.value.places step.value.places
        let all := max places last.value.places
        let scale (d : Decimal) : Int := d.widened all
        let units := numbersBetween (scale first.value) (scale step.value) (scale last.value)
        let point (places : Nat) : Nat := if places = 0 then 0 else 1
        let widthOf (operand : SeqOperand) : Nat :=
          operand.width + places + point places - operand.value.places -
            point operand.value.places
        let width := if arguments.has 'w' then max (widthOf first) (widthOf last) else 0
        let texts := units.map fun n =>
          let value : Decimal := ⟨n / Nat.pow 10 (all - places), places⟩
          match arguments.value? 'f' with
          | some format => formatNumber format value
          | none => some (utf8 (zeroPadded width value.text))
        let separator := utf8 ((arguments.value? 's').getD "\n")
        match texts.mapM id with
        | none => call.refused 1 "invalid format"
        | some [] => call.success []
        | some texts => call.success (separator.intercalate texts ++ [Input.newline])
    match operands.findSome? fun text =>
        if (SeqOperand.read? text).isNone then some text else none with
    | some text => call.misused 1 s!"invalid floating point argument: {quoted text}"
    | none =>
      match operands.filterMap SeqOperand.read? with
      | [] => call.lacking 1
      | [last] => print one one last
      | [first, last] => print first one last
      | [first, step, last] => print first step last
      | _ => call.unneeded 1 ((operands[3]?).getD "")

/-- The factors of a number that are `divisor` or more; `fuel` bounds the number of steps. -/
def factorsFrom : (fuel divisor n : Nat) → List Nat
  | 0, _, n => [n]
  | fuel + 1, divisor, n =>
    if n < 2 then []
    else if divisor * divisor > n then [n]
    else if n % divisor = 0 then divisor :: factorsFrom fuel divisor (n / divisor)
    else factorsFrom fuel (divisor + 1) n

/-- Print the prime factors of numbers. -/
def factor : Utility := fun call =>
  let fromInput := ((lossyText call.input).split fun c => c = ' ' || c = '\n' || c = '\t').toList
  let words := if call.args.isEmpty then
      (fromInput.map (·.toString)).filter (!·.isEmpty)
    else call.args
  let lines := words.map fun word =>
    match word.toNat? with
    | some n =>
      let factors := (factorsFrom 200000 2 n).map fun n => s!" {n}"
      (utf8 (s!"{n}:" ++ String.join factors ++ "\n"), [])
    | none => ([], call.complaint s!"{quoted word} is not a valid positive integer")
  let product := call.success (lines.flatMap (·.1))
  (if call.args.isEmpty then product.exhausted else product).spoiled 1 (lines.flatMap (·.2))

end CommandShell.Programs
