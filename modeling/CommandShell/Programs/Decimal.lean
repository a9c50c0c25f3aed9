import CommandShell.Text.Integer

/-!
# Decimal Fractions

Numbers with decimal places as they are read from arguments and printed again: with a fixed number
of places, with an exponent, or in the shorter of the two forms. A number that is to be printed
with an exponent or with places is first rounded to a binary number of 64 digits, as the machine
holds it; then it is rounded to the places that are asked for, a half to the even neighbour.
-/

namespace CommandShell.Programs

/-- A decimal fraction: an integer divided by a power of ten. -/
structure Decimal where
  /-- The integer. -/
  units : Int
  /-- How many of its digits are decimal places. -/
  places : Nat
  deriving DecidableEq, Repr

namespace Decimal

/-- The same number with more places. -/
def widened (places : Nat) (d : Decimal) : Int :=
  d.units * Nat.pow 10 (places - d.places)

/-- The number with its places, all of which are written. -/
def text (d : Decimal) : String :=
  let digits := Text.decimalDigits d.units.natAbs
  let digits := List.replicate (d.places + 1 - digits.length) '0' ++ digits
  let whole := digits.take (digits.length - d.places)
  let part := digits.drop (digits.length - d.places)
  String.ofList ((if d.units < 0 then ['-'] else []) ++ whole ++
    (if part.isEmpty then [] else '.' :: part))

/-- The number that some digits are. -/
def ofDigits (digits : List Char) : Nat :=
  digits.foldl (fun n c => n * 10 + (c.toNat - '0'.toNat)) 0

/-- Read the number that a text begins with, and what is left; an exponent shifts the point. -/
def read (text : List Char) : Option (Decimal × List Char) :=
  let (negative, rest) := match text with
    | '-' :: rest => (true, rest)
    | '+' :: rest => (false, rest)
    | _ => (false, text)
  let whole := rest.takeWhile Char.isDigit
  let rest := rest.drop whole.length
  let (part, rest) := match rest with
    | '.' :: more =>
      let part := more.takeWhile Char.isDigit
      (part, more.drop part.length)
    | _ => ([], rest)
  if whole.isEmpty && part.isEmpty then none
  else
    let units : Int := ofDigits (whole ++ part)
    let signed (units : Int) : Int := if negative then -units else units
    let exponent : Option (Int × List Char) := match rest with
      | e :: more =>
        if e = 'e' || e = 'E' then
          let (down, digits) := match more with
            | '-' :: digits => (true, digits)
            | '+' :: digits => (false, digits)
            | _ => (false, more)
          let shown := digits.takeWhile Char.isDigit
          if shown.isEmpty then none
          else
            let n : Int := ofDigits (shown.take 4)
            some (if down then -n else n, digits.drop shown.length)
        else none
      | [] => none
    match exponent with
    | none => some (⟨signed units, part.length⟩, rest)
    | some (shift, rest) =>
      let places := (part.length : Int) - shift
      if places < 0 then some (⟨signed (units * Nat.pow 10 (-places).toNat), 0⟩, rest)
      else some (⟨signed units, places.toNat⟩, rest)

/-- The whole of a text as a number. -/
def read? (text : List Char) : Option Decimal :=
  match read text with
  | some (d, []) => some d
  | _ => none

/-- The quotient of two numbers, rounded to the nearest integer, a half to the even one. -/
def roundedQuotient (n d : Nat) : Nat :=
  let q := n / d
  let twice := 2 * (n % d)
  if twice < d then q else if d < twice then q + 1 else q + q % 2

/-- How many binary digits the machine keeps of a number. -/
def mantissaDigits : Nat := 64

/-- A positive fraction rounded to a binary number, as a fraction again. -/
def machineFraction (n d : Nat) : Nat × Nat :=
  let size := n.log2 + 1
  let other := d.log2 + 1
  let shift : Int := mantissaDigits + other - size
  let scaled (shift : Int) : Nat :=
    if 0 ≤ shift then roundedQuotient (n * Nat.pow 2 shift.toNat) d
    else roundedQuotient n (d * Nat.pow 2 (-shift).toNat)
  let isLong := Nat.pow 2 mantissaDigits ≤ (if 0 ≤ shift then n * Nat.pow 2 shift.toNat / d
    else n / (d * Nat.pow 2 (-shift).toNat))
  let shift := if isLong then shift - 1 else shift
  if 0 ≤ shift then (scaled shift, Nat.pow 2 shift.toNat)
  else (scaled shift * Nat.pow 2 (-shift).toNat, 1)

/-- The size of a number as the machine holds it, as a fraction. -/
def machineSize (d : Decimal) : Nat × Nat :=
  if d.units = 0 then (0, 1) else machineFraction d.units.natAbs (Nat.pow 10 d.places)

/-- The digits of a fraction with a number of places. -/
def fixedDigits (places : Nat) (size : Nat × Nat) : String :=
  text ⟨roundedQuotient (size.1 * Nat.pow 10 places) size.2, places⟩

/-- The power of ten below a fraction. -/
def exponentOf (size : Nat × Nat) : Int :=
  if size.1 = 0 then 0
  else if size.2 ≤ size.1 then (Text.decimalDigits (size.1 / size.2)).length - 1
  else
    let inverse : Int := (Text.decimalDigits ((size.2 + size.1 - 1) / size.1 - 1)).length
    0 - inverse

/-- The digits of a fraction with one digit before the point, and the exponent that belongs to
them. -/
def scientificDigits (places : Nat) (size : Nat × Nat) : Nat × Int :=
  let exponent := exponentOf size
  let shift : Int := places - exponent
  let units :=
    if 0 ≤ shift then roundedQuotient (size.1 * Nat.pow 10 shift.toNat) size.2
    else roundedQuotient size.1 (size.2 * Nat.pow 10 (-shift).toNat)
  if Nat.pow 10 (places + 1) ≤ units then (units / 10, exponent + 1) else (units, exponent)

/-- An exponent with its sign and two digits at least. -/
def exponentText (exponent : Int) : String :=
  let digits := toString exponent.natAbs
  let digits := if digits.length < 2 then "0" ++ digits else digits
  (if exponent < 0 then "e-" else "e+") ++ digits

/-- A fraction with an exponent. -/
def scientific (places : Nat) (size : Nat × Nat) : String :=
  let (units, exponent) := scientificDigits places size
  text ⟨units, places⟩ ++ exponentText exponent

/-- A text of digits without the zeros after the point. -/
def withoutZeros (digits : String) : String :=
  if digits.contains '.' then
    let kept := digits.toList.reverse.dropWhile (· == '0')
    String.ofList (match kept with
      | '.' :: rest => rest.reverse
      | rest => rest.reverse)
  else digits

/-- A fraction with a number of significant digits, with an exponent where it is very small or
large. -/
def general (digits : Nat) (size : Nat × Nat) : String :=
  let digits := max digits 1
  let (units, exponent) := scientificDigits (digits - 1) size
  if exponent < -4 || (digits : Int) ≤ exponent then
    withoutZeros (text ⟨units, digits - 1⟩) ++ exponentText exponent
  else withoutZeros (fixedDigits ((digits : Int) - 1 - exponent).toNat size)

end Decimal

end CommandShell.Programs
