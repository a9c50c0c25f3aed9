import CommandShell.Programs.Call

/-!
# Sizes in Arguments

Counts of lines or bytes that are given to programs: decimal digits, with a letter that stands for
a factor.
-/

namespace CommandShell.Programs

/-- The factor that the letters after a count stand for: powers of 1024, or of 1000 with a `B`. -/
def sizeFactor? (letters : List Char) : Option Nat :=
  let powerOf (c : Char) : Option Nat :=
    ("KMGTPEZY".toList.idxOf? (if c = 'k' then 'K' else c)).map (· + 1)
  match letters with
  | [] => some 1
  | ['b'] => some 512
  | [c] | [c, 'i', 'B'] => (powerOf c).map (Nat.pow 1024)
  | [c, 'B'] => (powerOf c).map (Nat.pow 1000)
  | _ => none

/-- The count that a text gives. -/
def size? (text : String) : Option Nat := do
  let digits := text.toList.takeWhile Char.isDigit
  let factor ← sizeFactor? (text.toList.drop digits.length)
  if digits.isEmpty then none
  else return digits.foldl (fun n c => n * 10 + (c.toNat - '0'.toNat)) 0 * factor

/-- How much of some data is meant. -/
inductive Extent where
  /-- So many at the beginning or at the end. -/
  | some (count : Nat)
  /-- All but so many at the other side. -/
  | allBut (count : Nat)
  deriving DecidableEq, Repr

/-- A number in decimal, filled up with blanks at its left. -/
def padded (width : Nat) (text : String) : String :=
  "".pushn ' ' (width - text.length) ++ text

/-- A text filled up with blanks at its right. -/
def paddedRight (width : Nat) (text : String) : String :=
  text ++ "".pushn ' ' (width - text.length)

end CommandShell.Programs
