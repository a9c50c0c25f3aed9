import CommandShell.Proofs.Text.Decoding
import CommandShell.Stream.Input

/-!
# Text that is written and read back

Text is written as UTF-8 and decoded to itself (`decode_encode`): each of the sequences of one to
four bytes that stand for a character is recognised as such, and leaves the decoder between
characters again. A newline byte is written for a newline only (`newline_notMem_encode`).
-/

namespace CommandShell.Utf8

namespace Decoder

/-- What the first byte of a character announces, by its number. -/
theorem lead_eq (decoded : List Char) (b : UInt8) :
    lead decoded b =
      if b.toNat < 0x80 then ⟨Char.ofNat b.toNat :: decoded, .none⟩
      else if b.toNat < 0xC2 then ⟨replacement :: decoded, .none⟩
      else if b.toNat < 0xE0 then ⟨decoded, .within 1 (b.toNat % 32) 0x80 0xBF⟩
      else if b.toNat < 0xF0 then
        ⟨decoded, .within 2 (b.toNat % 16) (if b.toNat = 0xE0 then 0xA0 else 0x80)
          (if b.toNat = 0xED then 0x9F else 0xBF)⟩
      else if b.toNat < 0xF5 then
        ⟨decoded, .within 3 (b.toNat % 8) (if b.toNat = 0xF0 then 0x90 else 0x80)
          (if b.toNat = 0xF4 then 0x8F else 0xBF)⟩
      else ⟨replacement :: decoded, .none⟩ := by
  simp only [lead, UInt8.lt_iff_toNat_lt, beq_iff_eq, ← UInt8.toNat_inj, UInt8.reduceToNat]
  grind

section Continuation

variable (decoded : List Char) {bits : Nat} {low high b : UInt8}

theorem step_within (owed : Nat) (hlow : low.toNat ≤ b.toNat) (hhigh : b.toNat ≤ high.toNat) :
    step ⟨decoded, .within owed bits low high⟩ b =
      if owed ≤ 1 then ⟨Char.ofNat (bits * 64 + b.toNat % 64) :: decoded, .none⟩
      else ⟨decoded, .within (owed - 1) (bits * 64 + b.toNat % 64) 0x80 0xBF⟩ := by
  have hrange : (decide (low ≤ b) && decide (b ≤ high)) = true := by
    simp [UInt8.le_iff_toNat_le, hlow, hhigh]
  simp only [step, hrange, if_true]

/-- The last byte of a sequence completes the character. -/
theorem step_within_one (hlow : low.toNat ≤ b.toNat) (hhigh : b.toNat ≤ high.toNat) :
    step ⟨decoded, .within 1 bits low high⟩ b =
      ⟨Char.ofNat (bits * 64 + b.toNat % 64) :: decoded, .none⟩ :=
  step_within decoded 1 hlow hhigh

/-- Any other byte of a sequence is followed by one more, which may be any continuation byte. -/
theorem step_within_succ (owed : Nat) (hlow : low.toNat ≤ b.toNat)
    (hhigh : b.toNat ≤ high.toNat) :
    step ⟨decoded, .within (owed + 2) bits low high⟩ b =
      ⟨decoded, .within (owed + 1) (bits * 64 + b.toNat % 64) 0x80 0xBF⟩ := by
  rw [step_within decoded (owed + 2) hlow hhigh, if_neg (by omega)]
  rfl

end Continuation

/-- The byte may stand behind the first one of a sequence. -/
def IsContinuation (b : UInt8) : Prop :=
  (0x80 : UInt8).toNat ≤ b.toNat ∧ b.toNat ≤ (0xBF : UInt8).toNat

section Sequences

variable (decoded : List Char) {a b c d : UInt8}

theorem foldl_step_one (ha : a.toNat < 0x80) :
    [a].foldl step ⟨decoded, .none⟩ = ⟨Char.ofNat a.toNat :: decoded, .none⟩ := by
  change lead decoded a = _
  rw [lead_eq, if_pos ha]

theorem foldl_step_two (ha : 0xC2 ≤ a.toNat ∧ a.toNat < 0xE0) (hb : IsContinuation b) :
    [a, b].foldl step ⟨decoded, .none⟩ =
      ⟨Char.ofNat (a.toNat % 32 * 64 + b.toNat % 64) :: decoded, .none⟩ := by
  change step (lead decoded a) b = _
  rw [lead_eq, if_neg (by omega), if_neg (by omega), if_pos ha.2]
  exact step_within_one decoded hb.1 hb.2

theorem foldl_step_three (ha : 0xE0 ≤ a.toNat ∧ a.toNat < 0xF0) (hb : IsContinuation b)
    (hlow : a.toNat = 0xE0 → 0xA0 ≤ b.toNat) (hhigh : a.toNat = 0xED → b.toNat ≤ 0x9F)
    (hc : IsContinuation c) :
    [a, b, c].foldl step ⟨decoded, .none⟩ =
      ⟨Char.ofNat ((a.toNat % 16 * 64 + b.toNat % 64) * 64 + c.toNat % 64) :: decoded,
        .none⟩ := by
  change step (step (lead decoded a) b) c = _
  rw [lead_eq, if_neg (by omega), if_neg (by omega), if_neg (by omega), if_pos ha.2,
    step_within_succ decoded 0]
  · exact step_within_one decoded hc.1 hc.2
  · split_ifs with h
    · exact hlow h
    · exact hb.1
  · split_ifs with h
    · exact hhigh h
    · exact hb.2

theorem foldl_step_four (ha : 0xF0 ≤ a.toNat ∧ a.toNat < 0xF5) (hb : IsContinuation b)
    (hlow : a.toNat = 0xF0 → 0x90 ≤ b.toNat) (hhigh : a.toNat = 0xF4 → b.toNat ≤ 0x8F)
    (hc : IsContinuation c) (hd : IsContinuation d) :
    [a, b, c, d].foldl step ⟨decoded, .none⟩ =
      ⟨Char.ofNat (((a.toNat % 8 * 64 + b.toNat % 64) * 64 + c.toNat % 64) * 64 +
        d.toNat % 64) :: decoded, .none⟩ := by
  change step (step (step (lead decoded a) b) c) d = _
  rw [lead_eq, if_neg (by omega), if_neg (by omega), if_neg (by omega), if_neg (by omega),
    if_pos ha.2, step_within_succ decoded 1, step_within_succ decoded 0 hc.1 hc.2]
  · exact step_within_one decoded hd.1 hd.2
  · split_ifs with h
    · exact hlow h
    · exact hb.1
  · split_ifs with h
    · exact hhigh h
    · exact hb.2

/-- The bytes of a character are decoded to it. -/
theorem foldl_step_utf8EncodeChar (c : Char) :
    (String.utf8EncodeChar c).foldl step ⟨decoded, .none⟩ = ⟨c :: decoded, .none⟩ := by
  have hvalid : c.val.toNat < 0xD800 ∨ (0xDFFF < c.val.toNat ∧ c.val.toNat < 0x110000) := c.valid
  have hchar : Char.ofNat c.val.toNat = c := Char.ofNat_toNat c
  -- Of the character only its number is left, with the bounds that surrogates leave.
  rw [String.utf8EncodeChar]
  generalize c.val.toNat = v at hvalid hchar ⊢
  subst hchar
  have hbyte {n : Nat} (h : n < 256) : (UInt8.ofNat n).toNat = n := UInt8.toNat_ofNat_of_lt' h
  have hlast (n : Nat) : (UInt8.ofNat (n % 64 + 128)).toNat = n % 64 + 128 := hbyte (by omega)
  have hcontinuation (n : Nat) : IsContinuation (UInt8.ofNat (n % 64 + 128)) := by
    rw [IsContinuation, hlast]
    exact ⟨Nat.le_add_left _ _, by change _ ≤ 191; omega⟩
  split_ifs with hone htwo hthree
  · have hfirst : (UInt8.ofNat v).toNat = v := hbyte (by omega)
    rw [foldl_step_one decoded (by omega), hfirst]
  · have hfirst : (UInt8.ofNat (v / 64 % 32 + 192)).toNat = v / 64 % 32 + 192 := hbyte (by omega)
    rw [foldl_step_two decoded (by omega) (hcontinuation v), hfirst, hlast]
    congr 3
    omega
  · -- What the second byte must lie between excludes shorter sequences and surrogates.
    have hfirst : (UInt8.ofNat (v / 4096 % 16 + 224)).toNat = v / 4096 % 16 + 224 :=
      hbyte (by omega)
    rw [foldl_step_three decoded (by omega) (hcontinuation _) (by rw [hfirst, hlast]; omega)
      (by rw [hfirst, hlast]; omega) (hcontinuation v), hfirst, hlast, hlast]
    congr 3
    omega
  · have hfirst : (UInt8.ofNat (v / 262144 % 8 + 240)).toNat = v / 262144 % 8 + 240 :=
      hbyte (by omega)
    rw [foldl_step_four decoded (by omega) (hcontinuation _) (by rw [hfirst, hlast]; omega)
      (by rw [hfirst, hlast]; omega) (hcontinuation _) (hcontinuation v), hfirst, hlast, hlast,
      hlast]
    congr 3
    omega

end Sequences

end Decoder

/-- What is written is decoded to itself. -/
theorem decode_encode (cs : List Char) : decode (encode cs) = cs := by
  -- The characters that have been decoded before stay below those that are decoded now.
  have hfold (decoded : List Char) :
      (encode cs).foldl Decoder.step ⟨decoded, .none⟩ = ⟨cs.reverse ++ decoded, .none⟩ := by
    induction cs generalizing decoded with
    | nil => rfl
    | cons c cs ih =>
      rw [encode, List.flatMap_cons, List.foldl_append, Decoder.foldl_step_utf8EncodeChar]
      refine (ih (c :: decoded)).trans ?_
      rw [List.reverse_cons, List.append_assoc]
      rfl
  rw [decode, Decoder.start, hfold, List.append_nil]
  exact List.reverse_reverse cs

/-- An ASCII byte is written for the character of its number only. -/
theorem toNat_eq_of_mem_utf8EncodeChar {c : Char} {b : UInt8} (h : b ∈ String.utf8EncodeChar c)
    (hb : b.toNat < 0x80) : c.toNat = b.toNat := by
  have hvalid : c.val.toNat < 0xD800 ∨ (0xDFFF < c.val.toNat ∧ c.val.toNat < 0x110000) := c.valid
  rw [String.utf8EncodeChar] at h
  change c.val.toNat = b.toNat
  generalize c.val.toNat = v at hvalid h ⊢
  have hbyte {n : Nat} (h : n < 256) : (UInt8.ofNat n).toNat = n := UInt8.toNat_ofNat_of_lt' h
  have hbeyond {n : Nat} (hn : n < 256) (hlow : 0x80 ≤ n) : b ≠ UInt8.ofNat n := by
    rintro rfl
    rw [hbyte hn] at hb
    omega
  split_ifs at h with hone htwo hthree
  · rw [List.mem_singleton.mp h, hbyte (by omega)]
  -- In longer sequences every byte is beyond ASCII.
  all_goals
    refine absurd h ?_
    simp only [List.mem_cons, List.not_mem_nil, or_false, not_or]
  · exact ⟨hbeyond (by omega) (by omega), hbeyond (by omega) (by omega)⟩
  · exact ⟨hbeyond (by omega) (by omega), hbeyond (by omega) (by omega),
      hbeyond (by omega) (by omega)⟩
  · exact ⟨hbeyond (by omega) (by omega), hbeyond (by omega) (by omega),
      hbeyond (by omega) (by omega), hbeyond (by omega) (by omega)⟩

/-- A newline byte is written for a newline only. -/
theorem newline_notMem_encode {cs : List Char} (h : '\n' ∉ cs) : Input.newline ∉ encode cs := by
  intro hmem
  obtain ⟨c, hc, hb⟩ := List.mem_flatMap.mp hmem
  have hnewline : c.toNat = '\n'.toNat := toNat_eq_of_mem_utf8EncodeChar hb (by decide)
  exact h (Char.toNat_inj.mp hnewline ▸ hc)

end CommandShell.Utf8

namespace CommandShell

/-- Text that is written is read back. -/
theorem lossyText_utf8 (text : String) : lossyText (utf8 text) = text := by
  rw [lossyText, utf8, Utf8.decode_encode, String.ofList_toList]

theorem utf8_append (text more : String) : utf8 (text ++ more) = utf8 text ++ utf8 more := by
  rw [utf8, String.toList_append]
  exact List.flatMap_append

end CommandShell
