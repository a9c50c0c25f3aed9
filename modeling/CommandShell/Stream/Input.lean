import CommandShell.Text.Utf8
import CommandShell.Failure

/-!
# Inputs

What a command can read: some bytes, and what comes after them, either the end of the input or a
failure. How the bytes arrive, in one piece or in many, cannot be told from an input.

An input is mostly read by lines. A line ends at each newline byte; bytes after the last newline
are a line too, unless reading fails there.
-/

namespace CommandShell

/-- Bytes that can be read, and the failure that follows them instead of the end, if any. -/
structure Input where
  /-- The bytes that can still be read. -/
  data : Bytes
  /-- The failure met after the bytes; without one the input ends there. -/
  failure : Option Failure
  deriving DecidableEq, Repr

namespace Input

/-- An input with nothing to read. -/
def empty : Input := ⟨[], none⟩

/-- An input that holds some bytes and then ends. -/
def ofBytes (data : Bytes) : Input := ⟨data, none⟩

/-- An input that fails at once. -/
def failing (failure : Failure) : Input := ⟨[], some failure⟩

/-- The newline byte. -/
def newline : UInt8 := 0x0A

/-- Bytes cut into lines: the complete lines, last first and each without its newline, and the
bytes after the last newline, also last first. -/
structure Cut where
  /-- The complete lines, last first. -/
  lines : List Bytes
  /-- The bytes of the unfinished line, last first. -/
  unfinished : Bytes
  deriving DecidableEq, Repr

/-- Add one byte to a cut. -/
def Cut.step (cut : Cut) (b : UInt8) : Cut :=
  if b == newline then ⟨cut.unfinished.reverse :: cut.lines, []⟩
  else ⟨cut.lines, b :: cut.unfinished⟩

/-- Cut some bytes at each newline. -/
def cut (data : Bytes) : Cut :=
  data.foldl Cut.step ⟨[], []⟩

/-- The lines that end in a newline, without it. -/
def completeLines (data : Bytes) : List Bytes :=
  (cut data).lines.reverse

/-- The bytes after the last newline. -/
def lastPart (data : Bytes) : Bytes :=
  (cut data).unfinished.reverse

/-- The lines that can be read, each without its newline. Bytes after the last newline are a line
when the input ends there, and are lost when it fails there. -/
def lines (input : Input) : List Bytes :=
  let cut := cut input.data
  let last :=
    if cut.unfinished.isEmpty || input.failure.isSome then [] else [cut.unfinished.reverse]
  cut.lines.reverse ++ last

@[simp]
theorem lines_empty : empty.lines = [] := rfl

end Input

end CommandShell
