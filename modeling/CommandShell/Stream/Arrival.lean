import CommandShell.Stream.Input

/-!
# Arrival

How an input arrives: by attempts to read, one after the other. An attempt gives some bytes, or it
is interrupted and made again, or it fails. An attempt that finds nothing left is the end of the
input (`Read.ended`), and so is the end of the attempts.

What an input holds depends on the bytes alone and not on how they are cut into attempts: taking in
the bytes of each attempt is the same as taking in all of them (`feed_eq`), and an input that
arrives at once is found again (`ofReads_reads`).
-/

namespace CommandShell

/-- What an attempt to read gives. -/
inductive Read where
  /-- Some bytes. An empty chunk stands for no attempt at all. -/
  | bytes (chunk : Bytes)
  /-- Nothing, because it is interrupted. -/
  | interrupted
  /-- Nothing, because nothing is left; what later attempts would give is not asked for. -/
  | ended
  /-- A failure, after which nothing is read any more. -/
  | failed (failure : Failure)
  deriving DecidableEq, Repr

namespace Input

/-- An input with some bytes in front. -/
def prepend (bytes : Bytes) (input : Input) : Input :=
  ⟨bytes ++ input.data, input.failure⟩

/-- The input that arrives by some attempts. -/
def ofReads : List Read → Input
  | [] => empty
  | .bytes chunk :: rest => (ofReads rest).prepend chunk
  | .interrupted :: rest => ofReads rest
  | .ended :: _ => empty
  | .failed failure :: _ => failing failure

/-- The attempts by which an input arrives at once. -/
def reads (input : Input) : List Read :=
  .bytes input.data :: input.failure.toList.map .failed

@[simp]
theorem ofReads_reads (input : Input) : ofReads input.reads = input := by
  obtain ⟨data, failure⟩ := input
  cases failure <;> simp [reads, ofReads, prepend, empty, failing]

end Input

namespace Read

variable {σ : Type}

/-- Take in the bytes of some attempts one by one: the state after them, and the failure that they
end with, if any. -/
def feed (step : σ → UInt8 → σ) : σ → List Read → σ × Option Failure
  | state, [] => (state, none)
  | state, .bytes chunk :: rest => feed step (chunk.foldl step state) rest
  | state, .interrupted :: rest => feed step state rest
  | state, .ended :: _ => (state, none)
  | state, .failed failure :: _ => (state, some failure)

theorem feed_eq (step : σ → UInt8 → σ) (state : σ) (reads : List Read) :
    feed step state reads =
      ((Input.ofReads reads).data.foldl step state, (Input.ofReads reads).failure) := by
  fun_induction feed step state reads with
  | case1 => rfl
  | case2 state chunk rest ih => simp [Input.ofReads, Input.prepend, ih]
  | case3 state rest ih => simp [Input.ofReads, ih]
  | case4 => rfl
  | case5 => rfl

end Read

end CommandShell
