import CommandShell.Programs.Decimal
import CommandShell.Programs.Printf

/-!
# Scalars

The values that a program on records computes with: numbers of the machine and texts, which become
each other where that is wanted. A text that comes from outside and looks like a number is both.
-/

namespace CommandShell.Programs.Records

/-- A value. -/
inductive Scalar where
  /-- The value of a variable that has none: an empty text and zero. -/
  | unset
  /-- A number. -/
  | number (n : Float)
  /-- A text. -/
  | text (bytes : Bytes)
  /-- A text that looks like a number. -/
  | either (bytes : Bytes) (n : Float)

/-- The characters that the bytes of a text are. -/
def charsOf (bytes : Bytes) : List Char :=
  bytes.map fun b => Char.ofNat b.toNat

/-- A number of the machine as an exact fraction with a sign, if it is finite. -/
def fractionOf? (n : Float) : Option (Bool × Nat × Nat) :=
  let bits := n.toBits.toNat
  let negative := Nat.pow 2 63 ≤ bits
  let exponent := bits / Nat.pow 2 52 % 2048
  let low := bits % Nat.pow 2 52
  if exponent = 2047 then none
  else
    let mantissa := if exponent = 0 then low else low + Nat.pow 2 52
    let shift := max exponent 1
    if 1075 ≤ shift then some (negative, mantissa * Nat.pow 2 (shift - 1075), 1)
    else some (negative, mantissa, Nat.pow 2 (1075 - shift))

/-- A number of the machine without the part after the point, if it is finite. -/
def wholeOf? (n : Float) : Option Int :=
  (fractionOf? n).map fun (negative, size) =>
    let whole : Int := (size.1 / size.2 : Nat)
    if negative then -whole else whole

/-- A number of the machine as a decimal number, if it is finite: a half is five tenths. -/
def decimalOf? (n : Float) : Option Decimal :=
  (fractionOf? n).map fun (negative, size) =>
    let places := size.2.log2
    let units : Int := (size.1 * Nat.pow 5 places : Nat)
    ⟨if negative then -units else units, places⟩

/-- How a number that is not finite is written. -/
def infiniteText (n : Float) : String :=
  if n.isNaN then (if Nat.pow 2 63 ≤ n.toBits.toNat then "-nan" else "nan")
  else if n < 0 then "-inf"
  else "inf"

/-- The number that a text begins with after blanks, and what is left. -/
def leadingNumber (text : List Char) : Option (Float × List Char) :=
  let text := text.dropWhile fun c => c = ' ' || ('\t' ≤ c && c ≤ '\r')
  (Decimal.read text).map fun (d, rest) =>
    let size := Float.ofScientific d.units.natAbs true d.places
    (if text.head? = some '-' then -size else size, rest)

/-- A text from outside. -/
def Scalar.ofInput (bytes : Bytes) : Scalar :=
  let isBlank (c : Char) : Bool := c = ' ' || ('\t' ≤ c && c ≤ '\r')
  match leadingNumber (charsOf bytes) with
  | some (n, rest) => if rest.all isBlank then .either bytes n else .text bytes
  | none => .text bytes

/-- The whole numbers that are written without an exponent. -/
def isShort (whole : Int) : Bool :=
  -(Nat.pow 2 63 : Int) ≤ whole && whole ≤ Nat.pow 2 64

/-- Write a number by a conversion. -/
def writeNumber (conversion : Conversion) (n : Float) : Bytes :=
  match decimalOf? n with
  | some d => conversion.fraction d
  | none => conversion.fill false [] (utf8 (infiniteText n))

/-- Write a number by a format with a conversion, if it is not whole. -/
def numberText (format : Bytes) (n : Float) : Bytes :=
  match wholeOf? n with
  | some whole =>
    if Float.ofInt whole == n && isShort whole then utf8 (toString (min whole (Nat.pow 2 64 - 1)))
    else fraction
  | none => fraction
where
  /-- The number as the format writes it. -/
  fraction : Bytes :=
    let before := format.takeWhile (· != 0x25)
    let (conversion, rest, _) :=
      readConversion .ofProgram (charsOf (format.drop (before.length + 1))) []
    match rest with
    | letter :: after =>
      let conversion := { conversion with letter }
      let shown := if letter = 'd' || letter = 'i' then
          conversion.signed ((wholeOf? n).getD 0)
        else writeNumber conversion n
      before ++ shown ++ after.map fun c => UInt8.ofNat c.toNat
    | [] => format

namespace Scalar

/-- The value as a number. -/
def toNumber : Scalar → Float
  | .unset => 0
  | .number n | .either _ n => n
  | .text bytes => ((leadingNumber (charsOf bytes)).map (·.1)).getD 0

/-- The value as a text; `format` writes numbers that are not whole. -/
def toText (format : Bytes) : Scalar → Bytes
  | .unset => []
  | .number n => numberText format n
  | .text bytes | .either bytes _ => bytes

/-- The value counts as true. -/
def isTrue : Scalar → Bool
  | .unset => false
  | .number n | .either _ n => n != 0
  | .text bytes => !bytes.isEmpty

/-- The value is a text and nothing else. -/
def isText : Scalar → Bool
  | .text _ => true
  | _ => false

/-- The number that stands for a truth value. -/
def ofBool (truth : Bool) : Scalar := .number (if truth then 1 else 0)

/-- The first of two lists of bytes comes before the second. -/
def precedes : Bytes → Bytes → Bool
  | _, [] => false
  | [], _ => true
  | a :: as, b :: bs => a < b || (a = b && precedes as bs)

/-- Compare two values by an operator: as texts if one of them is nothing else. -/
def compare (format : Bytes) (operator : String) (a b : Scalar) : Bool :=
  let (less, same) :=
    if a.isText || b.isText then
      let left := a.toText format
      let right := b.toText format
      (precedes left right, left == right)
    else (a.toNumber < b.toNumber, a.toNumber == b.toNumber)
  match operator with
  | "<" => less
  | "<=" => less || same
  | "==" => same
  | "!=" => !same
  | ">" => !less && !same
  | _ => !less

end Scalar

end CommandShell.Programs.Records
