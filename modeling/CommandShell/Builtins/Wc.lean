import CommandShell.Text.Blank
import CommandShell.Text.Integer
import CommandShell.Builtins.Operands
import CommandShell.Stream.Arrival

/-!
# Counting

`wc` counts the lines, words and bytes of its operands, or of its input if there are none. Lines
are counted by their newlines; words are runs of bytes that are not blank.
-/

namespace CommandShell.Wc

/-- What is counted of an input. -/
structure Counts where
  /-- The number of newlines. -/
  lines : Nat
  /-- The number of words. -/
  words : Nat
  /-- The number of bytes. -/
  bytes : Nat
  deriving DecidableEq, Repr

namespace Counts

/-- Nothing. -/
def zero : Counts := ⟨0, 0, 0⟩

/-- What is counted of two inputs together. -/
def add (a b : Counts) : Counts :=
  ⟨a.lines + b.lines, a.words + b.words, a.bytes + b.bytes⟩

end Counts

/-- What has been counted up to some byte. -/
structure Tally where
  /-- The counts. -/
  counts : Counts
  /-- The last byte belongs to a word. -/
  inWord : Bool
  deriving DecidableEq, Repr

namespace Tally

/-- Nothing has been counted. -/
def start : Tally := ⟨.zero, false⟩

/-- Count one byte. -/
def step (tally : Tally) (b : UInt8) : Tally :=
  let blank := Text.isBlankByte b
  let lines := if b == Input.newline then tally.counts.lines + 1 else tally.counts.lines
  let words :=
    if !blank && !tally.inWord then tally.counts.words + 1 else tally.counts.words
  ⟨⟨lines, words, tally.counts.bytes + 1⟩, !blank⟩

end Tally

namespace Counts

/-- The counts of some bytes. -/
def ofBytes (data : Bytes) : Counts :=
  (data.foldl Tally.step .start).counts

/-- The counts of what arrives by some attempts to read, if none of them fails. -/
def ofReads (reads : List Read) : Except Failure Counts :=
  match Read.feed Tally.step .start reads with
  | (tally, none) => .ok tally.counts
  | (_, some failure) => .error failure

/-- The counts of an input, if reading it does not fail. -/
def ofInput (input : Input) : Except Failure Counts :=
  ofReads input.reads

/-- The width of a column. -/
def columnWidth : Nat := 7

/-- A number at the right end of a column. -/
def column (n : Nat) : String :=
  let digits := String.ofList (Text.decimalDigits n)
  String.ofList (List.replicate (columnWidth - digits.length) ' ') ++ digits

/-- A row of counts, with the name of what was counted if it has one. -/
def row (counts : Counts) (name : Option String) : String :=
  let columns := " ".intercalate (([counts.lines, counts.words, counts.bytes]).map column)
  match name with
  | some name => columns ++ " " ++ name ++ "\n"
  | none => columns ++ "\n"

end Counts

/-- The name of the command. -/
def name : String := "wc"

/-- The name of the row of sums. -/
def totalName : String := "total"

/-- Count files one after the other: the sum of their counts, and whether all could be read. -/
def countFiles (opener : Opener) : List String → Job (Counts × Bool)
  | [] => return (.zero, true)
  | path :: rest => do
    match (← opener path).bind Counts.ofInput with
    | .ok counts =>
      Job.print (utf8 (counts.row (some path)))
      let (others, good) ← countFiles opener rest
      return (counts.add others, good)
    | .error failure =>
      complainAbout name path failure
      let (others, _) ← countFiles opener rest
      return (others, false)

/-- The command, with a way to open files. -/
def runWith (opener : Opener) (args : List String) : Job Int := do
  if args.isEmpty then
    match Counts.ofInput (← Job.readInput) with
    | .ok counts =>
      Job.print (utf8 (counts.row none))
      Job.flush
      return 0
    | .error failure => throw (.io failure)
  else
    let (total, good) ← countFiles opener args
    if args.length > 1 then
      Job.print (utf8 (total.row (some totalName)))
    Job.flush
    return if good then 0 else 1

/-- The command. -/
def run (args : List String) : Job Int :=
  runWith Job.openFile args

end CommandShell.Wc
