import CommandShell.Programs.Call
import CommandShell.Programs.Regular.ByteSet

/-!
# Orders of Lines

How lines are compared when they are put in order: by their bytes, by the numbers they begin with,
by months or by versions, as wholes or by keys that are parts of them.
-/

namespace CommandShell.Programs

/-- The number that digits give. -/
def digitsValue (digits : Bytes) : Nat :=
  digits.foldl (fun n b => n * 10 + (b.toNat - 0x30)) 0

namespace Order

/-- The order of bytes; a text comes before one that it begins. -/
def ofBytes : Bytes → Bytes → Ordering
  | [], [] => .eq
  | [], _ :: _ => .lt
  | _ :: _, [] => .gt
  | a :: as, b :: bs => if a = b then ofBytes as bs else compare a b

/-- A number at the beginning of a text: its sign, the digits of its whole part without leading
zeros, and those of its fraction without trailing ones. -/
def numberAt (text : Bytes) : Bool × Bytes × Bytes :=
  let text := text.dropWhile isBlankIn
  let (negative, text) := match text with
    | 0x2D :: rest => (true, rest)
    | _ => (false, text)
  let whole := text.takeWhile isDigitByte
  let fraction := match text.drop whole.length with
    | 0x2E :: rest => rest.takeWhile isDigitByte
    | _ => []
  let whole := whole.dropWhile (· == 0x30)
  let fraction := (fraction.reverse.dropWhile (· == 0x30)).reverse
  (negative && !(whole.isEmpty && fraction.isEmpty), whole, fraction)

/-- The order of numbers at the beginning of texts, where nothing is zero. -/
def ofNumbers (a b : Bytes) : Ordering :=
  let size : Bytes × Bytes → Bytes × Bytes → Ordering := fun (wholeA, partA) (wholeB, partB) =>
    (compare wholeA.length wholeB.length).then ((ofBytes wholeA wholeB).then (ofBytes partA partB))
  match numberAt a, numberAt b with
  | (true, a), (true, b) => size b a
  | (true, _), (false, _) => .lt
  | (false, _), (true, _) => .gt
  | (false, a), (false, b) => size a b

/-- The factor that a letter after a number stands for, as a rank. -/
def unitRank (text : Bytes) : Int :=
  let (negative, whole, fraction) := numberAt text
  let rest := (text.dropWhile isBlankIn).dropWhile fun b =>
    b = 0x2D || isDigitByte b || b = 0x2E
  let rank : Nat := match rest with
    | b :: _ => ("KMGTPEZYRQ".toList.idxOf? (Char.ofNat (if b = 0x6B then 0x4B else b).toNat)).elim
        0 (· + 1)
    | [] => 0
  if whole.isEmpty && fraction.isEmpty then 0 else if negative then -(rank : Int) else rank

/-- The order of numbers that letters for factors may follow. -/
def ofUnits (a b : Bytes) : Ordering :=
  let sign (text : Bytes) : Int :=
    let (negative, whole, fraction) := numberAt text
    if negative then -1 else if whole.isEmpty && fraction.isEmpty then 0 else 1
  ((compare (sign a) (sign b)).then (compare (unitRank a) (unitRank b))).then (ofNumbers a b)

/-- The names of the months. -/
def months : List Bytes :=
  ["JAN", "FEB", "MAR", "APR", "MAY", "JUN", "JUL", "AUG", "SEP", "OCT", "NOV", "DEC"].map utf8

/-- The number of the month whose name a text begins with, or 0. -/
def monthOf (text : Bytes) : Nat :=
  let name := ((text.dropWhile isBlankIn).take 3).map upperByte
  (months.idxOf? name).elim 0 (· + 1)

/-- A number in scientific notation at the beginning of a text, as a fraction of whole numbers:
nothing if there is none. -/
def fractionAt (text : Bytes) : Option (Int × Nat) :=
  let text := text.dropWhile isBlankIn
  let (negative, text) := match text with
    | 0x2D :: rest => (true, rest)
    | 0x2B :: rest => (false, rest)
    | _ => (false, text)
  let whole := text.takeWhile isDigitByte
  let rest := text.drop whole.length
  let (fraction, rest) := match rest with
    | 0x2E :: after => (after.takeWhile isDigitByte, after.dropWhile isDigitByte)
    | _ => ([], rest)
  if whole.isEmpty && fraction.isEmpty then none
  else
    let exponent : Int := match rest with
      | e :: after =>
        if lowerByte e != 0x65 then 0
        else
          let (down, digits) := match after with
            | 0x2D :: digits => (true, digits)
            | 0x2B :: digits => (false, digits)
            | _ => (false, after)
          let size := digitsValue ((digits.takeWhile isDigitByte).take 4)
          if down then -(size : Int) else size
      | [] => 0
    let digits : Int := digitsValue (whole ++ fraction)
    let value := if negative then -digits else digits
    let exponent := exponent - fraction.length
    if exponent < 0 then some (value, Nat.pow 10 exponent.natAbs)
    else some (value * Nat.pow 10 exponent.natAbs, 1)

/-- The order of numbers in scientific notation; what is no number comes first. -/
def ofFractions (a b : Bytes) : Ordering :=
  match fractionAt a, fractionAt b with
  | none, none => .eq
  | none, some _ => .lt
  | some _, none => .gt
  | some (n, d), some (m, e) => compare (n * e) (m * d)

/-- The rank of a byte in a version: a tilde comes before the end, and letters before others. -/
def versionRank (b : UInt8) : Int :=
  if isDigitByte b then 0
  else if isLetterByte b then b.toNat
  else if b = 0x7E then -2
  else b.toNat + 256

/-- The order of the parts of versions that are not digits. -/
def ofVersionMarks : Bytes → Bytes → Ordering
  | [], [] => .eq
  | a :: as, [] => (compare (versionRank a) (-1)).then (ofVersionMarks as [])
  | [], b :: bs => (compare (-1) (versionRank b)).then (ofVersionMarks [] bs)
  | a :: as, b :: bs => (compare (versionRank a) (versionRank b)).then (ofVersionMarks as bs)

/-- The order of versions: parts without digits are compared as such, digits as numbers. -/
def ofVersions : (fuel : Nat) → Bytes → Bytes → Ordering
  | 0, _, _ => .eq
  | fuel + 1, a, b =>
    if a.isEmpty && b.isEmpty then .eq
    else
      let marksA := a.takeWhile (!isDigitByte ·)
      let marksB := b.takeWhile (!isDigitByte ·)
      let restA := a.drop marksA.length
      let restB := b.drop marksB.length
      let digitsA := restA.takeWhile isDigitByte
      let digitsB := restB.takeWhile isDigitByte
      ((ofVersionMarks marksA marksB).then
        (compare (digitsValue digitsA) (digitsValue digitsB))).then
        (ofVersions fuel (restA.drop digitsA.length) (restB.drop digitsB.length))

end Order

/-- How keys are compared. -/
inductive Comparison where
  /-- By their bytes. -/
  | bytes
  /-- By the numbers they begin with. -/
  | numbers
  /-- By numbers in scientific notation. -/
  | fractions
  /-- By numbers that letters for factors may follow. -/
  | units
  /-- By months. -/
  | months
  /-- By versions. -/
  | versions
  deriving DecidableEq, Repr

/-- How lines are compared by a key or as wholes. -/
structure Ranking where
  /-- What is compared. -/
  comparison : Comparison
  /-- Blanks at the beginning of a key do not count. -/
  skipsBlanks : Bool
  /-- Blanks before the end of a key do not count. -/
  skipsEndBlanks : Bool
  /-- Only blanks, letters and digits count. -/
  dictionary : Bool
  /-- The case of letters does not count. -/
  folds : Bool
  /-- Bytes that cannot be seen do not count. -/
  visibleOnly : Bool
  /-- The order is turned around. -/
  reversed : Bool
  deriving DecidableEq, Repr

namespace Ranking

/-- By bytes. -/
def plain : Ranking := ⟨.bytes, false, false, false, false, false, false⟩

/-- Compare two keys. -/
def compare (ranking : Ranking) (a b : Bytes) : Ordering :=
  let counted (text : Bytes) : Bytes :=
    let text := if ranking.dictionary then
        text.filter fun b => isBlankIn b || isDigitByte b || isLetterByte b
      else if ranking.visibleOnly then text.filter fun b => 0x20 ≤ b && b ≤ 0x7E
      else text
    if ranking.folds then text.map upperByte else text
  let order := match ranking.comparison with
    | .bytes => Order.ofBytes (counted a) (counted b)
    | .numbers => Order.ofNumbers a b
    | .fractions => Order.ofFractions a b
    | .units => Order.ofUnits a b
    | .months => Ord.compare (Order.monthOf a) (Order.monthOf b)
    | .versions => (Order.ofVersions (a.length + b.length + 1) a b).then (Order.ofBytes a b)
  if ranking.reversed then order.swap else order

/-- The effect of the letter of an ordering option, if it is one; `atEnd` tells that it stands after
the end of a key. -/
def with? (atEnd : Bool) (ranking : Ranking) : Char → Option Ranking
  | 'b' => some (if atEnd then { ranking with skipsEndBlanks := true }
      else { ranking with skipsBlanks := true })
  | 'd' => some { ranking with dictionary := true }
  | 'f' => some { ranking with folds := true }
  | 'i' => some { ranking with visibleOnly := true }
  | 'n' => some { ranking with comparison := .numbers }
  | 'g' => some { ranking with comparison := .fractions }
  | 'h' => some { ranking with comparison := .units }
  | 'M' => some { ranking with comparison := .months }
  | 'V' => some { ranking with comparison := .versions }
  | 'r' => some { ranking with reversed := true }
  | _ => none

end Ranking

/-- A key: a part of a line that lines are compared by. -/
structure SortKey where
  /-- How many fields stand before its beginning. -/
  startField : Nat
  /-- How many bytes of the first field are left out. -/
  startByte : Nat
  /-- The number of the last field; nothing if the key goes to the end of the line. -/
  endField : Option Nat
  /-- How many bytes of the last field belong to it; all if it is 0. -/
  endByte : Nat
  /-- How it is compared. -/
  ranking : Ranking
  deriving DecidableEq, Repr

namespace SortKey

/-- Skip fields, each with the separator after it; without a separator fields begin with blanks. -/
def skipFields (separator : Option UInt8) : Nat → Bytes → Bytes
  | 0, line => line
  | n + 1, line =>
    match separator with
    | some b => skipFields separator n ((line.dropWhile (· != b)).drop 1)
    | none =>
      skipFields separator n ((line.dropWhile isBlankIn).dropWhile (!isBlankIn ·))

/-- Where the key begins: what is left of the line there. -/
def startOf (key : SortKey) (separator : Option UInt8) (line : Bytes) : Bytes :=
  let rest := skipFields separator key.startField line
  let rest := if key.ranking.skipsBlanks then rest.dropWhile isBlankIn else rest
  rest.drop key.startByte

/-- What is left of the line after the key. -/
def restOf (key : SortKey) (separator : Option UInt8) (line : Bytes) : Bytes :=
  match key.endField with
  | none => []
  | some field =>
    if key.endByte = 0 then
      match separator with
      | some b => (skipFields separator (field - 1) line).dropWhile (· != b)
      | none => skipFields separator field line
    else
      let rest := skipFields separator (field - 1) line
      let rest := if key.ranking.skipsEndBlanks then rest.dropWhile isBlankIn else rest
      rest.drop key.endByte

/-- The key of a line. -/
def ofLine (key : SortKey) (separator : Option UInt8) (line : Bytes) : Bytes :=
  let start := key.startOf separator line
  start.take (start.length - (key.restOf separator line).length)

/-- Read a number and what follows it. -/
def readNumber (text : List Char) : Option (Nat × List Char) :=
  let digits := text.takeWhile Char.isDigit
  if digits.isEmpty then none
  else
    some (digits.foldl (fun n c => n * 10 + (c.toNat - '0'.toNat)) 0, text.drop digits.length)

/-- Read the place of a field and of a byte in it, with ordering options. -/
def readPlace (atEnd : Bool) (ranking : Ranking) (text : List Char) :
    Option (Nat × Nat × Ranking × List Char) := do
  let (field, rest) ← readNumber text
  let (byte, rest) ← match rest with
    | '.' :: rest => readNumber rest
    | _ => pure (if atEnd then 0 else 1, rest)
  let letters := rest.takeWhile Char.isAlpha
  let ranking ← letters.foldlM (Ranking.with? atEnd) ranking
  return (field, byte, ranking, rest.drop letters.length)

/-- Read a key; keys without ordering options of their own have those of `usual`. -/
def read? (usual : Ranking) (text : String) : Option SortKey := do
  let (startField, startByte, ranking, rest) ← readPlace false .plain text.toList
  if startField = 0 || startByte = 0 then none
  let (endField, endByte, ranking) ← match rest with
    | [] => pure (none, 0, ranking)
    | ',' :: rest => do
      let (field, byte, ranking, rest) ← readPlace true ranking rest
      if field = 0 || !rest.isEmpty then none else pure (some field, byte, ranking)
    | _ => none
  let ranking := if ranking = .plain then usual else ranking
  return ⟨startField - 1, startByte - 1, endField, endByte, ranking⟩

end SortKey

/-- Compare lines by keys, one after the other. -/
def compareByKeys (separator : Option UInt8) (a b : Bytes) : List SortKey → Ordering
  | [] => .eq
  | key :: rest =>
    (key.ranking.compare (key.ofLine separator a) (key.ofLine separator b)).then
      (compareByKeys separator a b rest)

end CommandShell.Programs
