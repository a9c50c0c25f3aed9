import CommandShell.Proofs.Execution.Running

/-!
# Notes among what is written

Notes go to the error stream, where they stand among the complaints if they are asked for. So what
is said about the error stream allows for notes: bytes that are nothing but notes (`AreNotes`), and
contexts that differ by nothing but notes, whatever the error stream accepts of them
(`Context.Noted`). Where no notes are asked for, there is nothing to allow for.
-/

namespace CommandShell

/-- The bytes are those of some notes, each of them written only if it is asked for. -/
inductive AreNotes (threshold : Option Journal.Level) : Bytes → Prop
  | nil : AreNotes threshold []
  | note {bytes : Bytes} (h : AreNotes threshold bytes) (level : Journal.Level)
      (topic : Journal.Topic) (text : String) :
      AreNotes threshold (bytes ++ noted threshold level topic text)

namespace AreNotes

variable {threshold : Option Journal.Level} {bytes bytes' : Bytes}

theorem single (threshold : Option Journal.Level) (level : Journal.Level) (topic : Journal.Topic)
    (text : String) : AreNotes threshold (noted threshold level topic text) :=
  AreNotes.nil.note level topic text

theorem append (h : AreNotes threshold bytes) (h' : AreNotes threshold bytes') :
    AreNotes threshold (bytes ++ bytes') := by
  induction h' with
  | nil => rwa [List.append_nil]
  | note _ level topic text ih =>
    rw [← List.append_assoc]
    exact ih.note level topic text

/-- Where no notes are asked for, none are written. -/
theorem eq_nil (h : AreNotes none bytes) : bytes = [] := by
  induction h with
  | nil => rfl
  | note _ level topic text ih =>
    rw [ih]
    rfl

end AreNotes

/-- The second context is the first one after some notes. -/
inductive Context.Noted (c : Context) : Context → Prop
  | refl : c.Noted c
  | note {c' : Context} (h : c.Noted c') (level : Journal.Level) (topic : Journal.Topic)
      (text : String) : c.Noted ((Action.note level topic text).runIn c').2

namespace Context.Noted

variable {c c' c'' : Context}

theorem trans (first : c.Noted c') (second : c'.Noted c'') : c.Noted c'' := by
  induction second with
  | refl => exact first
  | note _ level topic text ih => exact ih.note level topic text

/-- A note changes nothing but the error stream. -/
theorem eq_setErr (h : c.Noted c') : c' = { c with err := c'.err } := by
  induction h with
  | refl => rfl
  | note _ level topic text ih =>
    rw [Action.runIn_note]
    split
    · rw [ih]
    · exact ih

/-- Where no notes are asked for, nothing changes. -/
theorem eq_of_threshold (h : c.Noted c') (hthreshold : c.threshold = none) : c' = c := by
  induction h with
  | refl => rfl
  | note _ level topic text ih =>
    rw [ih, Action.runIn_note, hthreshold]
    rfl

/-- Where no stream fails, the notes are written. -/
theorem wrote (h : c.Noted c') (hc : c.NeverFails) :
    ∃ notes, AreNotes c.threshold notes ∧ c.Wrote c' [] notes := by
  induction h with
  | refl => exact ⟨[], .nil, .refl hc⟩
  | note _ level topic text ih =>
    obtain ⟨notes, hnotes, hwrote⟩ := ih
    have hnext := hwrote.trans (Action.wrote_note hwrote.neverFails level topic text)
    rw [hwrote.threshold] at hnext
    exact ⟨_, hnotes.note level topic text, hnext⟩

end Context.Noted

end CommandShell
