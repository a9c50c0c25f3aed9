/-!
# Tables of Code Points

Sets of code points given as text: ranges in order, each written as the number of code points
between the end of the range before and its own beginning, a plus sign, and the number of code
points in it, both in hexadecimal.
-/

namespace CommandShell.Unicode

/-- A set of code points as the first and last members of its ranges, in order. -/
structure RangeTable where
  /-- The first and the last code point of each range. -/
  ranges : Array (Nat × Nat)
  deriving Repr

namespace RangeTable

/-- The value of a number in hexadecimal capitals. -/
def hexNumber (digits : List Char) : Nat :=
  digits.foldl (fun n c =>
    n * 16 + (if c.isDigit then c.toNat - '0'.toNat else c.toNat - 'A'.toNat + 10)) 0

/-- Read ranges from their text: `next` is the code point after the ranges so far, `gap` the
distance already read of the range being read, and `digits` the digits read since. -/
def readRanges (ranges : Array (Nat × Nat)) (next gap : Nat) (digits : List Char) :
    List Char → Array (Nat × Nat)
  | [] =>
    if digits.isEmpty then ranges
    else ranges.push (next + gap, next + gap + hexNumber digits.reverse - 1)
  | ' ' :: rest =>
    let first := next + gap
    let after := first + hexNumber digits.reverse
    readRanges (ranges.push (first, after - 1)) after 0 [] rest
  | '+' :: rest => readRanges ranges next (hexNumber digits.reverse) [] rest
  | c :: rest => readRanges ranges next gap (c :: digits) rest

/-- The table that a text describes. -/
def ofText (text : String) : RangeTable :=
  ⟨readRanges #[] 0 0 [] text.toList⟩

/-- Look for `n` among the ranges from `low` below `high`; `fuel` bounds the number of
halvings. -/
def search (ranges : Array (Nat × Nat)) (n : Nat) : (fuel low high : Nat) → Bool
  | 0, _, _ => false
  | fuel + 1, low, high =>
    if high ≤ low then false
    else
      let middle := (low + high) / 2
      match ranges[middle]? with
      | some (first, last) =>
        if n < first then search ranges n fuel low middle
        else if last < n then search ranges n fuel (middle + 1) high
        else true
      | none => false

/-- The code point `n` is in the table. -/
def contains (table : RangeTable) (n : Nat) : Bool :=
  search table.ranges n 32 0 table.ranges.size

end RangeTable

end CommandShell.Unicode
