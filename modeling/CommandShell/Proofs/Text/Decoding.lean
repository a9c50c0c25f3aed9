import CommandShell.Text.Blank
import CommandShell.Text.Utf8
import Mathlib.Data.List.Basic

/-!
# Text that ends in a newline

Bytes that end in a newline are decoded to a text that ends in one, whatever precedes it
(`decode_append_ascii`): an ASCII byte continues no sequence, so that a sequence which is still
unfinished ends before it. Together with the fact that a blank character at the end does not change
the trimmed text (`trim_append_blank`), this says that a line may be read with its newline or
without.
-/

namespace CommandShell

namespace Utf8

/-- Only a byte beyond ASCII may come next. -/
def Pending.IsBeyondAscii : Pending → Prop
  | .none => True
  | .within _ _ low _ => 0x80 ≤ low

namespace Decoder

theorem isBeyondAscii_ite {p : Prop} [Decidable p] {d d' : Decoder}
    (h : d.pending.IsBeyondAscii) (h' : d'.pending.IsBeyondAscii) :
    (if p then d else d').pending.IsBeyondAscii := by
  split
  · exact h
  · exact h'

/-- The second byte of a sequence is beyond ASCII, whatever the first one is. -/
theorem isBeyondAscii_lead (decoded : List Char) (b : UInt8) :
    (lead decoded b).pending.IsBeyondAscii := by
  unfold lead
  dsimp only
  repeat' refine isBeyondAscii_ite ?_ ?_
  all_goals simp [Pending.IsBeyondAscii]

theorem isBeyondAscii_step (d : Decoder) (b : UInt8) : (d.step b).pending.IsBeyondAscii := by
  rw [step]
  cases d.pending with
  | none => exact isBeyondAscii_lead _ b
  | within owed bits low high =>
    dsimp only
    split
    · split
      · trivial
      · exact (by decide : (0x80 : UInt8) ≤ 0x80)
    · exact isBeyondAscii_lead _ b

theorem isBeyondAscii_foldl (bytes : Bytes) (d : Decoder) (h : d.pending.IsBeyondAscii) :
    (bytes.foldl step d).pending.IsBeyondAscii := by
  induction bytes generalizing d with
  | nil => exact h
  | cons b rest ih => exact ih _ (isBeyondAscii_step d b)

/-- An ASCII byte is a character of its own. -/
theorem finish_step_ascii (d : Decoder) (h : d.pending.IsBeyondAscii) {b : UInt8}
    (hb : b < 0x80) : (d.step b).finish = d.finish ++ [Char.ofNat b.toNat] := by
  obtain ⟨decoded, pending⟩ := d
  have hlead (decoded : List Char) :
      lead decoded b = ⟨Char.ofNat b.toNat :: decoded, .none⟩ := if_pos hb
  cases pending with
  | none =>
    change (lead decoded b).finish = _
    rw [hlead]
    exact List.reverse_cons
  | within owed bits low high =>
    -- The unfinished sequence is replaced before the byte is looked at on its own.
    have hlow : ¬low ≤ b := UInt8.not_le.mpr (UInt8.lt_of_lt_of_le hb h)
    have hstep : step ⟨decoded, .within owed bits low high⟩ b =
        lead (replacement :: decoded) b := by
      simp [step, hlow]
    rw [hstep, hlead]
    exact List.reverse_cons

end Decoder

/-- An ASCII byte at the end is decoded apart from what precedes it. -/
theorem decode_append_ascii (bytes : Bytes) {b : UInt8} (hb : b < 0x80) :
    decode (bytes ++ [b]) = decode bytes ++ [Char.ofNat b.toNat] := by
  rw [decode, List.foldl_append]
  exact Decoder.finish_step_ascii _ (Decoder.isBeyondAscii_foldl bytes .start trivial) hb

end Utf8

/-- A blank at the end is trimmed away. -/
theorem Text.trim_append_blank (cs : List Char) {c : Char} (h : isBlank c = true) :
    trim (cs ++ [c]) = trim cs := by
  rw [trim, trim, List.dropWhile_append]
  split
  · next hnil =>
    rw [List.isEmpty_iff.mp hnil, List.dropWhile_cons_of_pos h]
    rfl
  · rw [List.reverse_append, List.reverse_singleton, List.singleton_append,
      List.dropWhile_cons_of_pos h]

end CommandShell
