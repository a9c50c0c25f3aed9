import CommandShell.Programs.Utility.Order
import CommandShell.Programs.Utility.Size

/-!
# Counting

The program `wc`, which counts the lines, words and bytes of what it reads, and how wide lines are.
The counts of several operands stand below each other, with their sums at the end.
-/

namespace CommandShell.Programs

/-- What is counted in some data. -/
structure Counts where
  /-- How many newlines there are. -/
  lines : Nat
  /-- How many words. -/
  words : Nat
  /-- How many bytes. -/
  bytes : Nat
  /-- How wide the widest line is. -/
  width : Nat
  deriving DecidableEq, Repr

namespace Counts

/-- Nothing is counted. -/
def zero : Counts := ⟨0, 0, 0, 0⟩

/-- The counts of two parts together. -/
def add (a b : Counts) : Counts :=
  ⟨a.lines + b.lines, a.words + b.words, a.bytes + b.bytes, max a.width b.width⟩

/-- The byte can be seen. -/
def isVisible (b : UInt8) : Bool := 0x20 < b && b < 0x7F

/-- The byte separates words. -/
def separates (b : UInt8) : Bool := b = 0x20 || (0x09 ≤ b && b ≤ 0x0D)

/-- Count bytes: `inWord` tells that a word has begun, and `column` is where the next byte
stands. -/
def count (counts : Counts) : (inWord : Bool) → (column : Nat) → Bytes → Counts
  | inWord, column, [] =>
    { counts with
      words := counts.words + inWord.toNat, width := max counts.width column }
  | inWord, column, b :: rest =>
    let counts := { counts with bytes := counts.bytes + 1 }
    if separates b then
      let counts := { counts with
        lines := counts.lines + (b == 0x0A).toNat, words := counts.words + inWord.toNat }
      if b = 0x0A || b = 0x0D || b = 0x0C then
        count { counts with width := max counts.width column } false 0 rest
      else
        let next := if b = 0x09 then column + 8 - column % 8
          else if b = 0x20 then column + 1 else column
        count counts false next rest
    else count counts (inWord || isVisible b) (column + (isVisible b).toNat) rest

/-- The counts of some data. -/
def ofData (data : Bytes) : Counts := zero.count false 0 data

/-- The counts that are asked for, in their order. -/
def chosen (letters : List Char) (counts : Counts) : List Nat :=
  [('l', counts.lines), ('w', counts.words), ('m', counts.bytes), ('c', counts.bytes),
    ('L', counts.width)].filterMap fun (letter, n) =>
      if letters.contains letter then some n else none

end Counts

/-- Count lines, words and bytes. -/
def wc : Utility := fun call =>
  let flags := flagsOf "lwcmL" "T"
    [('l', "lines"), ('w', "words"), ('c', "bytes"), ('m', "chars"), ('L', "max-line-length"),
      ('T', "total")]
  call.parsed flags 1 fun arguments =>
    let given := "lwmcL".toList.filter arguments.has
    let letters := if given.isEmpty then "lwc".toList else given
    let paths := arguments.operands
    let contents : Contents := call.contents paths
    let sizeOf (path : String) (data : Bytes) : Option Nat :=
      if path = "-" then call.inputSize else some data.length
    let isSingle := letters.length = 1 && contents.length ≤ 1
    let isDirectory (failure : Failure) : Bool := failure = .system .isDirectory
    let sizes : List (Option Nat) := contents.map fun
      | (path, .ok data) => sizeOf path data
      | (_, .error failure) => if isDirectory failure then none else some 0
    let isFirstBad := match contents.head? with
      | some (_, .error failure) => !isDirectory failure
      | _ => false
    let total := (sizes.map (·.getD 0)).foldl (· + ·) 0
    let least := if sizes.any (·.isNone) then 7 else 1
    let width := if isSingle || isFirstBad then 1 else max least (toString total).length
    let line (counts : Counts) (name : String) : String :=
      " ".intercalate ((counts.chosen letters).map fun n => padded width (toString n)) ++
        (if name.isEmpty then "\n" else s!" {name}\n")
    let counted := contents.filterMap fun
      | (path, .ok data) => some (Counts.ofData data, path)
      | (path, .error failure) =>
        if isDirectory failure then some (Counts.zero, path) else none
    let style := (arguments.value? 'T').getD "auto"
    let isTotalShown := (contents.length > 1 && style != "never") || style = "always"
    let sum := counted.foldl (fun sum (counts, _) => sum.add counts) Counts.zero
    let lines := counted.map fun (counts, path) => line counts (if paths.isEmpty then "" else path)
    let shown := if style = "only" then line sum ""
      else String.join lines ++ if isTotalShown then line sum "total" else ""
    (call.reads paths (call.success (utf8 shown))).spoiled 1
      (call.complaintsAbout Call.plainly contents)

end CommandShell.Programs
