import CommandShell.Proofs.Text.Lines

/-!
# Bytes that are not text

Decoding loses nothing without a trace: where nothing is replaced, the bytes are those that the text
is written as (`encode_decode`). So bytes that are no text leave a replacement when they are decoded
(`replacement_mem_decode`).

Bytes are looked at from the front. They begin with the sequence of a character, or something in
them is replaced, since a byte that is missing or out of its range ends the sequence before it
(`Decoder.exists_char_or_replaces`).
-/

namespace CommandShell.Utf8

namespace Decoder

/-! ## Replacements -/

/-- A decoder that has seen `pending` replaces something when it is given the bytes. -/
def Replaces (pending : Pending) (bytes : Bytes) : Prop :=
  ∀ decoded, replacement ∈ (bytes.foldl step ⟨decoded, pending⟩).finish

/-- What has been decoded stays in the text. -/
theorem mem_finish_foldl {c : Char} {decoded : List Char} (h : c ∈ decoded) {pending : Pending}
    (hlong : pending.IsLong) (bytes : Bytes) :
    c ∈ (bytes.foldl step ⟨decoded, pending⟩).finish := by
  obtain ⟨found, left, hfinds⟩ := exists_finds hlong bytes
  rw [hfinds.foldl_eq, finish_append]
  exact List.mem_append_left _ (List.mem_reverse.mpr h)

/-- A first byte that is replaced leaves its replacement, whatever follows. -/
theorem replaces_of_lead {b : UInt8}
    (h : ∀ decoded, lead decoded b = ⟨replacement :: decoded, .none⟩) (rest : Bytes) :
    Replaces .none (b :: rest) := by
  intro decoded
  have hstep : step ⟨decoded, .none⟩ b = ⟨replacement :: decoded, .none⟩ := h decoded
  have hlong : Pending.IsLong .none := trivial
  rw [List.foldl_cons, hstep]
  exact mem_finish_foldl List.mem_cons_self hlong rest

/-- A byte that goes on with a character leaves it to the others. -/
theorem Replaces.cons {pending next : Pending} {b : UInt8} {rest : Bytes}
    (hstep : ∀ decoded, step ⟨decoded, pending⟩ b = ⟨decoded, next⟩) (h : Replaces next rest) :
    Replaces pending (b :: rest) := by
  intro decoded
  rw [List.foldl_cons, hstep]
  exact h decoded

/-- So does a byte of a sequence that is in its range, if more bytes are owed. -/
theorem Replaces.next {owed bits : Nat} {low high b : UInt8} {rest : Bytes}
    (h : Replaces (.within (owed + 1) (bits * 64 + b.toNat % 64) 0x80 0xBF) rest)
    (hrange : low.toNat ≤ b.toNat ∧ b.toNat ≤ high.toNat) :
    Replaces (.within (owed + 2) bits low high) (b :: rest) :=
  h.cons fun decoded => step_within_succ decoded owed hrange.1 hrange.2

/-- An unfinished character is replaced, unless a byte of the right range comes next. -/
theorem in_range_or_replaces (owed bits : Nat) (low high : UInt8) (bytes : Bytes) :
    (∃ b rest, bytes = b :: rest ∧ low.toNat ≤ b.toNat ∧ b.toNat ≤ high.toNat) ∨
      Replaces (.within owed bits low high) bytes := by
  cases bytes with
  | nil => exact .inr fun decoded => by simp [finish]
  | cons b rest =>
    by_cases hrange : low.toNat ≤ b.toNat ∧ b.toNat ≤ high.toNat
    · exact .inl ⟨b, rest, rfl, hrange⟩
    · refine .inr fun decoded => ?_
      -- Whatever the byte begins stands behind the replacement.
      obtain ⟨found, left, hlead⟩ := exists_finds_lead b
      have hbegun : lead (replacement :: decoded) b = ⟨found ++ replacement :: decoded, left⟩ :=
        hlead.foldl_eq (replacement :: decoded)
      rw [List.foldl_cons, step_within_of_not_range decoded hrange, hbegun]
      exact mem_finish_foldl (List.mem_append_right _ List.mem_cons_self) hlead.isLong rest

/-! ## Sequences of characters -/

section Sequences

variable {a b c d : UInt8}

theorem val_ofNat {v : Nat} (h : v.isValidChar) : (Char.ofNat v).val.toNat = v := by
  rw [Char.ofNat, dif_pos h]
  rfl

theorem ofNat_eq_of_toNat_eq {n : Nat} (h : n = b.toNat) : UInt8.ofNat n = b := by
  rw [h, UInt8.ofNat_toNat]

theorem utf8EncodeChar_one (ha : a.toNat < 0x80) :
    String.utf8EncodeChar (Char.ofNat a.toNat) = [a] := by
  rw [String.utf8EncodeChar, val_ofNat (.inl (by omega)), if_pos (by omega), UInt8.ofNat_toNat]

theorem utf8EncodeChar_two (ha : 0xC2 ≤ a.toNat ∧ a.toNat < 0xE0) (hb : IsContinuation b) :
    String.utf8EncodeChar (Char.ofNat (a.toNat % 32 * 64 + b.toNat % 64)) = [a, b] := by
  obtain ⟨hlow, hhigh⟩ : 0x80 ≤ b.toNat ∧ b.toNat ≤ 0xBF := hb
  rw [String.utf8EncodeChar, val_ofNat (.inl (by omega)), if_neg (by omega), if_pos (by omega),
    ofNat_eq_of_toNat_eq (b := a) (by omega), ofNat_eq_of_toNat_eq (b := b) (by omega)]

theorem utf8EncodeChar_three (ha : 0xE0 ≤ a.toNat ∧ a.toNat < 0xF0) (hb : IsContinuation b)
    (hlow : a.toNat = 0xE0 → 0xA0 ≤ b.toNat) (hhigh : a.toNat = 0xED → b.toNat ≤ 0x9F)
    (hc : IsContinuation c) :
    String.utf8EncodeChar
        (Char.ofNat ((a.toNat % 16 * 64 + b.toNat % 64) * 64 + c.toNat % 64)) = [a, b, c] := by
  obtain ⟨hblow, hbhigh⟩ : 0x80 ≤ b.toNat ∧ b.toNat ≤ 0xBF := hb
  obtain ⟨hclow, hchigh⟩ : 0x80 ≤ c.toNat ∧ c.toNat ≤ 0xBF := hc
  -- The range of the second byte excludes surrogates.
  have hvalid : ((a.toNat % 16 * 64 + b.toNat % 64) * 64 + c.toNat % 64).isValidChar := by
    rw [Nat.isValidChar]
    omega
  rw [String.utf8EncodeChar, val_ofNat hvalid, if_neg (by omega), if_neg (by omega),
    if_pos (by omega), ofNat_eq_of_toNat_eq (b := a) (by omega),
    ofNat_eq_of_toNat_eq (b := b) (by omega), ofNat_eq_of_toNat_eq (b := c) (by omega)]

theorem utf8EncodeChar_four (ha : 0xF0 ≤ a.toNat ∧ a.toNat < 0xF5) (hb : IsContinuation b)
    (hlow : a.toNat = 0xF0 → 0x90 ≤ b.toNat) (hhigh : a.toNat = 0xF4 → b.toNat ≤ 0x8F)
    (hc : IsContinuation c) (hd : IsContinuation d) :
    String.utf8EncodeChar
        (Char.ofNat (((a.toNat % 8 * 64 + b.toNat % 64) * 64 + c.toNat % 64) * 64 +
          d.toNat % 64)) = [a, b, c, d] := by
  obtain ⟨hblow, hbhigh⟩ : 0x80 ≤ b.toNat ∧ b.toNat ≤ 0xBF := hb
  obtain ⟨hclow, hchigh⟩ : 0x80 ≤ c.toNat ∧ c.toNat ≤ 0xBF := hc
  obtain ⟨hdlow, hdhigh⟩ : 0x80 ≤ d.toNat ∧ d.toNat ≤ 0xBF := hd
  have hvalid : (((a.toNat % 8 * 64 + b.toNat % 64) * 64 + c.toNat % 64) * 64 +
      d.toNat % 64).isValidChar := by
    rw [Nat.isValidChar]
    omega
  rw [String.utf8EncodeChar, val_ofNat hvalid, if_neg (by omega), if_neg (by omega),
    if_neg (by omega), ofNat_eq_of_toNat_eq (b := a) (by omega),
    ofNat_eq_of_toNat_eq (b := b) (by omega), ofNat_eq_of_toNat_eq (b := c) (by omega),
    ofNat_eq_of_toNat_eq (b := d) (by omega)]

end Sequences

/-! ## What bytes begin with -/

/-- A later byte of a sequence may be any continuation byte. -/
theorem continuation_or_replaces (owed bits : Nat) (bytes : Bytes) :
    (∃ b rest, bytes = b :: rest ∧ IsContinuation b) ∨
      Replaces (.within owed bits 0x80 0xBF) bytes :=
  in_range_or_replaces owed bits 0x80 0xBF bytes

/-- The second byte of a sequence is a continuation byte, also where its range is narrower. -/
theorem isContinuation_of_narrowed {p q : Prop} [Decidable p] [Decidable q] {low high b : UInt8}
    (hlow : 0x80 ≤ low.toNat) (hhigh : high.toNat ≤ 0xBF)
    (h : (if p then low else 0x80).toNat ≤ b.toNat ∧ b.toNat ≤ (if q then high else 0xBF).toNat) :
    IsContinuation b ∧ (p → low.toNat ≤ b.toNat) ∧ (q → b.toNat ≤ high.toNat) := by
  obtain ⟨habove, hbelow⟩ := h
  refine ⟨⟨?_, ?_⟩, fun hp => ?_, fun hq => ?_⟩
  · split_ifs at habove
    · exact Nat.le_trans hlow habove
    · exact habove
  · split_ifs at hbelow
    · exact Nat.le_trans hbelow hhigh
    · exact hbelow
  · rwa [if_pos hp] at habove
  · rwa [if_pos hq] at hbelow

theorem exists_char_of_eq {c : Char} {sequence : Bytes} (h : String.utf8EncodeChar c = sequence)
    (rest : Bytes) :
    ∃ c rest', sequence ++ rest = String.utf8EncodeChar c ++ rest' :=
  ⟨c, rest, by rw [h]⟩

/-- Bytes begin with the sequence of a character, or something in them is replaced. -/
theorem exists_char_or_replaces (a : UInt8) (bytes : Bytes) :
    (∃ c rest, a :: bytes = String.utf8EncodeChar c ++ rest) ∨ Replaces .none (a :: bytes) := by
  have hlead (decoded : List Char) := lead_eq decoded a
  -- In each range of first bytes, the bytes that are owed are looked at one after the other.
  by_cases hascii : a.toNat < 0x80
  · exact .inl (exists_char_of_eq (utf8EncodeChar_one hascii) bytes)
  by_cases hlow : a.toNat < 0xC2
  · simp only [hascii, hlow, if_true, if_false] at hlead
    exact .inr (replaces_of_lead hlead bytes)
  by_cases htwo : a.toNat < 0xE0
  · simp only [hascii, hlow, htwo, if_true, if_false] at hlead
    rcases continuation_or_replaces 1 (a.toNat % 32) bytes with ⟨b, rest, rfl, hb⟩ | h
    · exact .inl (exists_char_of_eq (utf8EncodeChar_two ⟨by omega, htwo⟩ hb) rest)
    · exact .inr (h.cons hlead)
  by_cases hthree : a.toNat < 0xF0
  · simp only [hascii, hlow, htwo, hthree, if_true, if_false] at hlead
    rcases in_range_or_replaces 2 (a.toNat % 16) (if a.toNat = 0xE0 then 0xA0 else 0x80)
      (if a.toNat = 0xED then 0x9F else 0xBF) bytes with ⟨b, rest, rfl, hrange⟩ | h
    · obtain ⟨hb, hfirst, hlast⟩ := isContinuation_of_narrowed (by decide) (by decide) hrange
      rcases continuation_or_replaces 1 (a.toNat % 16 * 64 + b.toNat % 64) rest with
        ⟨c, rest, rfl, hc⟩ | h
      · exact .inl (exists_char_of_eq
          (utf8EncodeChar_three ⟨by omega, hthree⟩ hb hfirst hlast hc) rest)
      · exact .inr ((h.next hrange).cons hlead)
    · exact .inr (h.cons hlead)
  by_cases hfour : a.toNat < 0xF5
  · simp only [hascii, hlow, htwo, hthree, hfour, if_true, if_false] at hlead
    rcases in_range_or_replaces 3 (a.toNat % 8) (if a.toNat = 0xF0 then 0x90 else 0x80)
      (if a.toNat = 0xF4 then 0x8F else 0xBF) bytes with ⟨b, rest, rfl, hrange⟩ | h
    · obtain ⟨hb, hfirst, hlast⟩ := isContinuation_of_narrowed (by decide) (by decide) hrange
      rcases continuation_or_replaces 2 (a.toNat % 8 * 64 + b.toNat % 64) rest with
        ⟨c, rest, rfl, hc⟩ | h
      · rcases continuation_or_replaces 1
          ((a.toNat % 8 * 64 + b.toNat % 64) * 64 + c.toNat % 64) rest with ⟨d, rest, rfl, hd⟩ | h
        · exact .inl (exists_char_of_eq
            (utf8EncodeChar_four ⟨by omega, hfour⟩ hb hfirst hlast hc hd) rest)
        · exact .inr (((h.next hc).next hrange).cons hlead)
      · exact .inr ((h.next hrange).cons hlead)
    · exact .inr (h.cons hlead)
  · simp only [hascii, hlow, htwo, hthree, hfour, if_false] at hlead
    exact .inr (replaces_of_lead hlead bytes)

end Decoder

/-! ## Text that is written back -/

/-- The sequence of a character is decoded apart from what follows it. -/
theorem decode_utf8EncodeChar_append (c : Char) (rest : Bytes) :
    decode (String.utf8EncodeChar c ++ rest) = c :: decode rest := by
  obtain ⟨found, left, hrest, htext⟩ := exists_decode_eq rest
  rw [decode, List.foldl_append, Decoder.start, Decoder.foldl_step_utf8EncodeChar, hrest.foldl_eq,
    Decoder.finish_append, htext]
  rfl

/-- Where nothing is replaced, the text is written back as the bytes that it was read from. -/
theorem encode_decode {bytes : Bytes} (h : replacement ∉ decode bytes) :
    encode (decode bytes) = bytes := by
  -- Several bytes may make up the first character, so that the induction is on the length.
  induction hn : bytes.length using Nat.strongRecOn generalizing bytes with
  | ind n ih =>
    cases bytes with
    | nil => rfl
    | cons a bytes =>
      rcases Decoder.exists_char_or_replaces a bytes with ⟨c, rest, hbytes⟩ | hreplaces
      · rw [hbytes, decode_utf8EncodeChar_append] at h ⊢
        have hshorter : rest.length < n := by
          have hpos := String.length_utf8EncodeChar c
          have hlength := congrArg List.length hbytes
          rw [List.length_append] at hlength
          have := c.utf8Size_pos
          omega
        have hrest := ih rest.length hshorter (fun hmem => h (List.mem_cons_of_mem c hmem)) rfl
        rw [encode, List.flatMap_cons]
        exact congrArg _ hrest
      · exact absurd (hreplaces []) h

/-- Bytes that no text is written as leave a replacement. -/
theorem replacement_mem_decode {bytes : Bytes} (h : decode? bytes = none) :
    replacement ∈ decode bytes := by
  by_contra hnone
  rw [decode?, if_pos (encode_decode hnone)] at h
  cases h

end CommandShell.Utf8
