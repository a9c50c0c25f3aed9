import CommandShell.Proofs.Job.Running
import Mathlib.Data.List.TakeDrop

/-!
# What an output accepts

An output with room for only so many bytes takes the first of those that are written to it and
refuses the others. So what it holds after a write is what it held before and what it accepted
(`contents_write`), and what it accepts of two writes is what it would accept of both in one piece
(`accepted_append`): where one write ends and the next begins does not matter to what arrives.
-/

namespace CommandShell.Output

theorem accepted_of_room {out : Output} {room : Nat} (h : out.room = some room) (bytes : Bytes) :
    out.accepted bytes = bytes.take room := by
  rw [accepted, h]

/-- What has been accepted stays, and what is accepted of a write comes behind it. -/
theorem contents_write (out : Output) (bytes : Bytes) :
    (out.write bytes).1.contents = out.contents ++ out.accepted bytes := by
  rw [write, accepted]
  cases out.room with
  | none => simp [contents]
  | some room =>
    dsimp only
    split
    · next h =>
      have hfits : bytes.take room = bytes := by
        rw [List.take_eq_self_iff]
        exact List.drop_eq_nil_iff.mp (List.isEmpty_iff.mp h)
      simp [contents, hfits]
    · simp [contents]

/-- A write uses up the room for the bytes that it puts into the output. -/
theorem room_write (out : Output) (bytes : Bytes) :
    (out.write bytes).1.room = out.room.map (· - bytes.length) := by
  rw [write]
  cases out.room with
  | none => rfl
  | some room =>
    dsimp only
    split
    · rfl
    · next h =>
      -- More bytes are written than there is room, so that none is left.
      rw [List.isEmpty_iff, List.drop_eq_nil_iff, Nat.not_le] at h
      exact congrArg some (Nat.sub_eq_zero_of_le (Nat.le_of_lt h)).symm

/-- What is accepted of two writes is what would be accepted of both in one piece. -/
theorem accepted_append (out : Output) (first second : Bytes) :
    out.accepted (first ++ second) =
      out.accepted first ++ (out.write first).1.accepted second := by
  rw [accepted, accepted, accepted, room_write]
  cases out.room with
  | none => rfl
  | some room => exact List.take_append

/-- The output has room for so many bytes, and flushing it never fails. -/
structure IsLimited (out : Output) (room : Nat) : Prop where
  room : out.room = some room
  flushing (pieces : List Bytes) : out.flushing pieces = none

theorem isLimited_limited (room : Nat) (failure : Failure) :
    (limited room failure).IsLimited room := ⟨rfl, fun _ => rfl⟩

namespace IsLimited

variable {out : Output} {room : Nat}

theorem write (h : out.IsLimited room) (bytes : Bytes) :
    (out.write bytes).1.IsLimited (room - bytes.length) where
  room := by rw [room_write, h.room]; rfl
  flushing := by rw [flushing_write]; exact h.flushing

/-- Such an output ends quietly if that is how its writes fail. -/
theorem endsQuietly (h : out.IsLimited room) (hfailure : out.failure.isBrokenPipe = true) :
    out.EndsQuietly where
  write := .inr hfailure
  flush pieces failure hflush := by
    rw [h.flushing] at hflush
    cases hflush

end IsLimited

end CommandShell.Output
