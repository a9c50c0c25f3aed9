import CommandShell.Programs.Records.Machine

/-!
# Functions That Are Always There

What the functions make of their arguments that neither change variables nor read or write, and how
texts are printed by formats and matches are replaced.
-/

namespace CommandShell.Programs.Records

/-- The remainder of a division without the part after the point; it has the sign of the first
number. -/
def remainder (a b : Float) : Float :=
  match fractionOf? a, fractionOf? b with
  | some (negative, n, d), some (_, m, e) =>
    if m = 0 then 0.0 / 0.0
    else
      let size := (Float.ofNat (n * e % (m * d))).scaleB (-((d.log2 + e.log2 : Nat) : Int))
      if negative then -size else size
  | some _, none => if b.isNaN then b else a
  | none, _ => 0.0 / 0.0

/-- Apply an operator to two numbers. -/
def calculate (operator : String) (a b : Float) : Float :=
  match operator with
  | "+" => a + b
  | "-" => a - b
  | "*" => a * b
  | "/" => a / b
  | "%" => remainder a b
  | _ => Float.pow a b

/-- A number without the part after the point. -/
def truncated (n : Float) : Float := if n < 0 then n.ceil else n.floor

/-- A number rounded to a whole one. -/
def roundedWhole (n : Float) : Int :=
  (wholeOf? n.round).getD (if n < 0 then -2147483647 else 2147483647)

/-- A part of a text; the first character has the position one. -/
def partOf (text : Bytes) (start : Float) (size : Option Float) : Bytes :=
  let first := roundedWhole start
  let after := match size with
    | some size => roundedWhole (start + size)
    | none => text.length + 1
  let first := max first 1
  (text.drop (first - 1).toNat).take (after - first).toNat

/-- The first position in which a text stands in another one; zero if there is none. -/
def positionOf (text : Bytes) : (position : Nat) → (within : Bytes) → Nat
  | position, [] => if text.isEmpty then position else 0
  | position, b :: rest =>
    if text.isPrefixOf (b :: rest) then position else positionOf text (position + 1) rest

/-- Print a value by a conversion. -/
def printValue (machine : Machine) (conversion : Conversion) (value : Scalar) : Option Bytes :=
  let whole := (wholeOf? value.toNumber).getD 0
  match conversion.letter with
  | 'd' | 'i' => some (conversion.signed (clamp whole).1)
  | 'o' | 'x' | 'X' | 'u' => some (conversion.unsigned whole)
  | 'e' | 'E' | 'f' | 'F' | 'g' | 'G' => some (writeNumber conversion value.toNumber)
  | 's' =>
    let text := machine.textOf value
    some (conversion.fill false [] (conversion.precision.elim text text.take))
  | 'c' =>
    let byte := match value with
      | .number _ | .either .. => [UInt8.ofNat (whole % 256).toNat]
      | _ => if (machine.textOf value).isEmpty then [0] else (machine.textOf value).take 1
    some (conversion.fill false [] byte)
  | _ => none

/-- Print values by a format, if there are enough of them; `fuel` bounds the number of steps. -/
def formatValues (machine : Machine) :
    (fuel : Nat) → (format : List Char) → List Scalar → Option Bytes
  | 0, _, _ => none
  | _, [], _ => some []
  | fuel + 1, '%' :: '%' :: rest, values =>
    (formatValues machine fuel rest values).map (0x25 :: ·)
  | fuel + 1, '%' :: rest, values => do
    let sizes := values.map fun value => toString ((wholeOf? value.toNumber).getD 0)
    let (conversion, rest, left) := readConversion .ofProgram rest sizes
    match rest, values.drop (values.length - left.length) with
    | letter :: rest, value :: values =>
      let shown ← printValue machine { conversion with letter } value
      (formatValues machine fuel rest values).map (shown ++ ·)
    | _, _ => none
  | fuel + 1, c :: rest, values =>
    (formatValues machine fuel rest values).map (UInt8.ofNat c.toNat :: ·)

/-- Print the values after the first one, which is the format. -/
def formatAllValues (machine : Machine) : List Scalar → Option Bytes
  | [] => none
  | format :: values =>
    let format := charsOf (machine.textOf format)
    formatValues machine (format.length + 1) format values

/-- What a match is replaced by: an ampersand stands for the match. -/
def replacement (found : Bytes) : Bytes → Bytes
  | 0x5C :: 0x26 :: rest => 0x26 :: replacement found rest
  | 0x5C :: 0x5C :: rest => 0x5C :: replacement found rest
  | 0x26 :: rest => found ++ replacement found rest
  | b :: rest => b :: replacement found rest
  | [] => []

/-- Replace matches from a position on, the first one or all of them: the text and how many have
been replaced. An empty match right after another one does not count. `fuel` bounds the number of
steps. -/
def replaceMatches (subject : Regular.Subject) (regular : Regular) (template : Bytes)
    (isGlobal : Bool) : (fuel start : Nat) → (isAfter : Bool) → Bytes × Nat
  | 0, start, _ => (subject.part start subject.bytes.size, 0)
  | fuel + 1, start, isAfter =>
    match Regular.search? subject regular start with
    | none => (subject.part start subject.bytes.size, 0)
    | some found =>
      let before := subject.part start found.start
      let after := subject.part found.stop (found.stop + 1)
      let goOn := replaceMatches subject regular template isGlobal fuel
      if found.start = found.stop then
        let put := if isAfter && found.start = start then [] else replacement [] template
        let count := if isAfter && found.start = start then 0 else 1
        if found.start = subject.bytes.size then (before ++ put, count)
        else if isGlobal || count = 0 then
          let (rest, others) := goOn (found.stop + 1) false
          (before ++ put ++ after ++ rest, count + others)
        else (before ++ put ++ subject.part found.stop subject.bytes.size, count)
      else
        let put := replacement (subject.part found.start found.stop) template
        if isGlobal then
          let (rest, others) := goOn found.stop true
          (before ++ put ++ rest, others + 1)
        else (before ++ put ++ subject.part found.stop subject.bytes.size, 1)

/-- What a function makes of its arguments, if it only computes. -/
def compute (machine : Machine) (name : String) (values : List Scalar) : Option Scalar :=
  let number (f : Float → Float) : Option Scalar :=
    values.head?.map fun value => .number (f value.toNumber)
  let text (f : Bytes → Bytes) : Option Scalar :=
    values.head?.map fun value => .text (f (machine.textOf value))
  match name, values with
  | "length", [] => some (.number (Float.ofNat machine.record.length))
  | "length", value :: _ => some (.number (Float.ofNat (machine.textOf value).length))
  | "substr", [value, start] =>
    some (.text (partOf (machine.textOf value) start.toNumber none))
  | "substr", [value, start, size] =>
    some (.text (partOf (machine.textOf value) start.toNumber (some size.toNumber)))
  | "index", [within, part] =>
    let position := positionOf (machine.textOf part) 1 (machine.textOf within)
    some (.number (Float.ofNat position))
  | "sprintf", _ => (formatAllValues machine values).map .text
  | "atan2", [y, x] => some (.number (Float.atan2 y.toNumber x.toNumber))
  | "sin", _ => number Float.sin
  | "cos", _ => number Float.cos
  | "exp", _ => number Float.exp
  | "log", _ => number Float.log
  | "sqrt", _ => number Float.sqrt
  | "int", _ => number truncated
  | "tolower", _ => text (·.map fun b => if 0x41 ≤ b && b ≤ 0x5A then b + 0x20 else b)
  | "toupper", _ => text (·.map fun b => if 0x61 ≤ b && b ≤ 0x7A then b - 0x20 else b)
  | "rand", _ | "srand", _ => some (.number 0)
  | _, _ => none

end CommandShell.Programs.Records
