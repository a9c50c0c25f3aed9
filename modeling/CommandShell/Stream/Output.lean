import CommandShell.Text.Utf8
import CommandShell.Failure

/-!
# Outputs

What a command can write to: a stream that accepts bytes, possibly only so many of them. A write
puts into the stream as much as it accepts and fails if anything is left over. What was accepted
stays. An empty write never fails.

A stream may hold back what it has accepted. A flush asks it to let go of that, and may fail where
every write before it went well; how it ends depends on what was written and is the stream's own.
-/

namespace CommandShell

/-- A stream that bytes are written to. -/
structure Output where
  /-- The pieces accepted so far, last first. -/
  pieces : List Bytes
  /-- How many more bytes are accepted; without a number no write ever fails. -/
  room : Option Nat
  /-- The failure of a write that finds no room. -/
  failure : Failure
  /-- The failure of a flush, if it fails, by the pieces that were accepted before it. -/
  flushing : List Bytes → Option Failure

namespace Output

/-- An output that never fails. -/
def unlimited : Output := ⟨[], none, .closed, fun _ => none⟩

/-- An output that accepts `room` bytes and then fails. It holds nothing back. -/
def limited (room : Nat) (failure : Failure) : Output := ⟨[], some room, failure, fun _ => none⟩

/-- Everything that has been accepted. -/
def contents (out : Output) : Bytes :=
  out.pieces.reverse.flatten

/-- The number of bytes accepted so far. -/
def size (out : Output) : Nat :=
  out.pieces.foldl (fun total piece => total + piece.length) 0

/-- Write some bytes: the output afterwards, and the failure if not all were accepted. -/
def write (out : Output) (bytes : Bytes) : Output × Option Failure :=
  match out.room with
  | none => ({ out with pieces := bytes :: out.pieces }, none)
  | some room =>
    let rest := bytes.drop room
    if rest.isEmpty then
      ({ out with pieces := bytes :: out.pieces, room := some (room - bytes.length) }, none)
    else ({ out with pieces := bytes.take room :: out.pieces, room := some 0 }, some out.failure)

/-- The bytes of a write that the output accepts. -/
def accepted (out : Output) (bytes : Bytes) : Bytes :=
  match out.room with
  | none => bytes
  | some room => bytes.take room

/-- Flush the output: the failure, if there is one. What has been accepted stays. -/
def flush (out : Output) : Option Failure :=
  out.flushing out.pieces

@[simp]
theorem contents_unlimited : unlimited.contents = [] := rfl

/-- A stream that never refuses a write accepts everything. -/
theorem contents_write_of_room_none {out : Output} (h : out.room = none) (bytes : Bytes) :
    (out.write bytes).1.contents = out.contents ++ bytes := by
  simp [write, h, contents]

/-- A write to a stream that never refuses one succeeds. -/
theorem write_failure_of_room_none {out : Output} (h : out.room = none) (bytes : Bytes) :
    (out.write bytes).2 = none := by
  rw [write, h]

/-- A write does not change how later writes fail. -/
@[simp]
theorem failure_write (out : Output) (bytes : Bytes) :
    (out.write bytes).1.failure = out.failure := by
  rw [write]
  split
  · rfl
  · dsimp only
    split <;> rfl

/-- A write does not change how the output is flushed. -/
@[simp]
theorem flushing_write (out : Output) (bytes : Bytes) :
    (out.write bytes).1.flushing = out.flushing := by
  rw [write]
  split
  · rfl
  · dsimp only
    split <;> rfl

end Output

end CommandShell
