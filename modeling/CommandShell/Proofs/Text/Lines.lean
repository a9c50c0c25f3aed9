import CommandShell.Proofs.Stream.Pieces
import CommandShell.Proofs.Text.Encoding

/-!
# Decoding by lines

Bytes may be decoded line by line or as a whole: the lines of the decoded text are the decoded
lines (`splitOn_decode`), and cut behind their newlines the bytes are decoded piece by piece
(`flatMap_decode_cutBehind`).

There are two reasons. A newline byte continues no sequence, so that it ends one that is unfinished,
and what comes behind it is decoded as if nothing stood before (`decode_append_newline`). And no
other byte makes a newline: neither a sequence of several bytes nor a replacement stands for one
(`newline_notMem_decode`). Both are read off what the decoder finds in some bytes, wherever they
begin (`Decoder.Finds`).
-/

namespace CommandShell.Utf8

/-! ## What some bytes add to a text -/

/-- Whatever completes the pending character, its number is beyond ASCII: the bits that have been
seen show that already, or those of the next byte will. -/
def Pending.IsLong : Pending → Prop
  | .none => True
  | .within owed bits low high =>
    0x80 ≤ low.toNat ∧ high.toNat ≤ 0xBF ∧
      (2 ≤ bits ∨ 1 < owed ∧ 0x82 ≤ bits * 64 + low.toNat)

theorem Pending.IsLong.isBeyondAscii {pending : Pending} (h : pending.IsLong) :
    pending.IsBeyondAscii := by
  cases pending with
  | none => trivial
  | within owed bits low high => exact UInt8.le_iff_toNat_le.mpr h.1

namespace Decoder

/-- What a decoder makes of some bytes that begin where `pending` has been seen: it finds some
characters, last first, and `left` is what it has seen of the next one. -/
structure Finds (pending : Pending) (bytes : Bytes) (found : List Char) (left : Pending) :
    Prop where
  /-- What has been decoded before stays below what is found. -/
  foldl_eq : ∀ decoded, bytes.foldl step ⟨decoded, pending⟩ = ⟨found ++ decoded, left⟩
  isLong : left.IsLong
  /-- No other byte makes a newline. -/
  newline_mem : '\n' ∈ found → Input.newline ∈ bytes
  /-- Where there is a byte, there is a character, or the beginning of one. -/
  ne_nil : bytes ≠ [] → found ≠ [] ∨ left ≠ .none

namespace Finds

variable {pending next left : Pending}

theorem nil (h : pending.IsLong) : Finds pending [] [] pending :=
  ⟨fun _ => rfl, h, nofun, fun hne => absurd rfl hne⟩

/-- The bytes that follow are decoded behind what has been found. -/
theorem append {as bs : Bytes} {found more : List Char} (first : Finds pending as found next)
    (second : Finds next bs more left) : Finds pending (as ++ bs) (more ++ found) left where
  foldl_eq decoded := by
    rw [List.foldl_append, first.foldl_eq, second.foldl_eq, List.append_assoc]
  isLong := second.isLong
  newline_mem hmem := by
    rcases List.mem_append.mp hmem with h | h
    · exact List.mem_append_right _ (second.newline_mem h)
    · exact List.mem_append_left _ (first.newline_mem h)
  ne_nil hne := by
    cases bs with
    | cons b bs =>
      refine (second.ne_nil (List.cons_ne_nil b bs)).imp_left fun hmore => ?_
      exact List.append_ne_nil_of_left_ne_nil hmore _
    | nil =>
      -- Without further bytes, the decoder is where it was.
      have hend := second.foldl_eq []
      rw [List.foldl_nil, List.append_nil] at hend
      obtain ⟨rfl, rfl⟩ := Decoder.mk.inj hend
      rw [List.append_nil] at hne
      exact first.ne_nil hne

end Finds

/-- A byte that is out of its range has the pending character replaced, and is looked at on its
own. -/
theorem step_within_of_not_range (decoded : List Char) {owed bits : Nat} {low high b : UInt8}
    (h : ¬(low.toNat ≤ b.toNat ∧ b.toNat ≤ high.toNat)) :
    step ⟨decoded, .within owed bits low high⟩ b = lead (replacement :: decoded) b := by
  have hrange : ¬(low ≤ b ∧ b ≤ high) := by
    rwa [UInt8.le_iff_toNat_le, UInt8.le_iff_toNat_le]
  simp [step, hrange]

/-- The newline is the character of its number only. What stands for a number that no character has
is no newline either. -/
theorem ofNat_eq_newline {n : Nat} (h : Char.ofNat n = '\n') : n = 10 := by
  have hnumber : (Char.ofNat n).toNat = 10 := congrArg Char.toNat h
  by_cases hvalid : n.isValidChar
  · rw [Char.ofNat, dif_pos hvalid] at hnumber
    exact hnumber
  · rw [Char.ofNat, dif_neg hvalid] at hnumber
    exact absurd hnumber (by decide)

/-- A sequence of three or more bytes: if the first one has no bits of its own, the range of the
second one is narrowed so that it has some. -/
theorem isLong_within {p q : Prop} [Decidable p] [Decidable q] {owed bits : Nat} {low high : UInt8}
    (howed : 1 < owed) (hlow : 0x82 ≤ low.toNat) (hhigh : high.toNat ≤ 0xBF)
    (hbits : ¬p → 1 ≤ bits) :
    (Pending.within owed bits (if p then low else 0x80) (if q then high else 0xBF)).IsLong := by
  refine ⟨?_, ?_, .inr ⟨howed, ?_⟩⟩
  · split_ifs
    · omega
    · decide
  · split_ifs
    · exact hhigh
    · decide
  · by_cases hp : p
    · rw [if_pos hp]
      omega
    · have hfirst := hbits hp
      have hlowest : (0x80 : UInt8).toNat = 0x80 := rfl
      rw [if_neg hp, hlowest]
      omega

/-- The first byte of a character is replaced. -/
theorem Finds.replaced {b : UInt8}
    (h : ∀ decoded, lead decoded b = ⟨replacement :: decoded, .none⟩) :
    Finds .none [b] [replacement] .none where
  foldl_eq := h
  isLong := trivial
  newline_mem hmem := absurd (List.mem_singleton.mp hmem) (by decide)
  ne_nil _ := .inl (List.cons_ne_nil _ _)

/-- The first byte of a character announces more bytes. -/
theorem Finds.announced {b : UInt8} {owed bits : Nat} {low high : UInt8}
    (h : ∀ decoded, lead decoded b = ⟨decoded, .within owed bits low high⟩)
    (hlong : (Pending.within owed bits low high).IsLong) :
    Finds .none [b] [] (.within owed bits low high) where
  foldl_eq := h
  isLong := hlong
  newline_mem hmem := absurd hmem List.not_mem_nil
  ne_nil _ := .inr nofun

/-- The first byte of a character is a character by itself, is replaced, or announces a character
beyond ASCII. -/
theorem exists_finds_lead (b : UInt8) : ∃ found left, Finds .none [b] found left := by
  -- The cases are the ranges of first bytes, as `lead` looks at them.
  by_cases hascii : b.toNat < 0x80
  · refine ⟨[Char.ofNat b.toNat], .none, fun decoded => ?_, trivial, fun hmem => ?_,
      fun _ => .inl (List.cons_ne_nil _ _)⟩
    · show lead decoded b = _
      rw [lead_eq, if_pos hascii]
      rfl
    · have hnumber := ofNat_eq_newline (List.mem_singleton.mp hmem).symm
      exact List.mem_singleton.mpr (UInt8.toNat_inj.mp hnumber.symm)
  by_cases hlow : b.toNat < 0xC2
  · refine ⟨_, _, .replaced fun decoded => ?_⟩
    rw [lead_eq, if_neg hascii, if_pos hlow]
  by_cases htwo : b.toNat < 0xE0
  · have hlead (decoded : List Char) := lead_eq decoded b
    simp only [hascii, hlow, htwo, if_true, if_false] at hlead
    exact ⟨_, _, .announced hlead ⟨Nat.le_refl _, Nat.le_refl _, .inl (by omega)⟩⟩
  by_cases hthree : b.toNat < 0xF0
  · have hlead (decoded : List Char) := lead_eq decoded b
    simp only [hascii, hlow, htwo, hthree, if_true, if_false] at hlead
    exact ⟨_, _, .announced hlead
      (isLong_within (by decide) (by decide) (by decide) (by omega))⟩
  by_cases hfour : b.toNat < 0xF5
  · have hlead (decoded : List Char) := lead_eq decoded b
    simp only [hascii, hlow, htwo, hthree, hfour, if_true, if_false] at hlead
    exact ⟨_, _, .announced hlead
      (isLong_within (by decide) (by decide) (by decide) (by omega))⟩
  · refine ⟨_, _, .replaced fun decoded => ?_⟩
    rw [lead_eq, if_neg hascii, if_neg hlow, if_neg htwo, if_neg hthree, if_neg hfour]

/-- What one more byte adds: it goes on with the pending character, or has it replaced and begins a
character of its own. -/
theorem exists_finds_singleton {pending : Pending} (h : pending.IsLong) (b : UInt8) :
    ∃ found left, Finds pending [b] found left := by
  obtain ⟨begun, left, hlead⟩ := exists_finds_lead b
  cases pending with
  | none => exact ⟨begun, left, hlead⟩
  | within owed bits low high =>
    obtain ⟨hlow, hhigh, hbits⟩ := h
    by_cases hrange : low.toNat ≤ b.toNat ∧ b.toNat ≤ high.toNat
    · have hstep (decoded : List Char) :
          step ⟨decoded, .within owed bits low high⟩ b = _ :=
        step_within decoded owed hrange.1 hrange.2
      -- The bits of the byte are added to those of the pending character.
      have hlast : b.toNat % 64 = b.toNat - 0x80 := by omega
      by_cases howed : owed ≤ 1
      · refine ⟨[Char.ofNat (bits * 64 + b.toNat % 64)], .none, fun decoded => ?_, trivial,
          fun hmem => ?_, fun _ => .inl (List.cons_ne_nil _ _)⟩
        · exact (hstep decoded).trans (if_pos howed)
        · have hnumber := ofNat_eq_newline (List.mem_singleton.mp hmem).symm
          omega
      · refine ⟨[], .within (owed - 1) (bits * 64 + b.toNat % 64) 0x80 0xBF, fun decoded => ?_, ?_,
          nofun, fun _ => .inr nofun⟩
        · exact (hstep decoded).trans (if_neg howed)
        · exact ⟨Nat.le_refl _, Nat.le_refl _, .inl (by omega)⟩
    · -- The byte begins a character behind the replacement.
      refine ⟨begun ++ [replacement], left, fun decoded => ?_, hlead.isLong, fun hmem => ?_,
        fun _ => .inl (List.append_ne_nil_of_right_ne_nil _ (List.cons_ne_nil _ _))⟩
      · rw [List.foldl_cons, step_within_of_not_range decoded hrange, List.append_assoc]
        exact hlead.foldl_eq (replacement :: decoded)
      · rcases List.mem_append.mp hmem with hmem | hmem
        · exact hlead.newline_mem hmem
        · exact absurd (List.mem_singleton.mp hmem) (by decide)

theorem exists_finds {pending : Pending} (h : pending.IsLong) (bytes : Bytes) :
    ∃ found left, Finds pending bytes found left := by
  -- What is pending varies: each byte leaves a long character to the next.
  induction bytes generalizing pending with
  | nil => exact ⟨[], pending, .nil h⟩
  | cons b rest ih =>
    obtain ⟨found, next, hfirst⟩ := exists_finds_singleton h b
    obtain ⟨more, left, hrest⟩ := ih hfirst.isLong
    exact ⟨more ++ found, left, hfirst.append hrest⟩

/-- Text that has been decoded before comes first. -/
theorem finish_append (found decoded : List Char) (left : Pending) :
    finish ⟨found ++ decoded, left⟩ = decoded.reverse ++ finish ⟨found, left⟩ := by
  cases left <;> simp [finish]

/-- A newline byte ends the pending character, and is one by itself. -/
theorem step_newline (decoded : List Char) {pending : Pending} (h : pending.IsBeyondAscii) :
    step ⟨decoded, pending⟩ Input.newline =
      ⟨'\n' :: (finish ⟨decoded, pending⟩).reverse, .none⟩ := by
  have hlead (decoded : List Char) : lead decoded Input.newline = ⟨'\n' :: decoded, .none⟩ := rfl
  cases pending with
  | none =>
    show lead decoded Input.newline = _
    simp [hlead, finish]
  | within owed bits low high =>
    -- What goes on with a character beyond ASCII is above the newline.
    have hlow : ¬low ≤ Input.newline :=
      UInt8.not_le.mpr (UInt8.lt_of_lt_of_le (by decide) h)
    simp [step, hlow, hlead, finish]

end Decoder

/-- What is found in all bytes, in order, is their text; a character that is left unfinished is
replaced. -/
theorem exists_decode_eq (bytes : Bytes) :
    ∃ found left, Decoder.Finds .none bytes found left ∧
      decode bytes = Decoder.finish ⟨found, left⟩ := by
  obtain ⟨found, left, h⟩ := Decoder.exists_finds (show Pending.IsLong .none from trivial) bytes
  have hfold := h.foldl_eq []
  rw [List.append_nil] at hfold
  exact ⟨found, left, h, congrArg Decoder.finish hfold⟩

/-! ## Newlines -/

/-- Behind a newline, bytes are decoded as if nothing stood before it, whatever that is. -/
theorem decode_append_newline (front back : Bytes) :
    decode (front ++ Input.newline :: back) = decode front ++ '\n' :: decode back := by
  obtain ⟨found, left, hfront, hfrontText⟩ := exists_decode_eq front
  obtain ⟨more, last, hback, hbackText⟩ := exists_decode_eq back
  have hfold := hfront.foldl_eq []
  rw [List.append_nil] at hfold
  rw [decode, List.foldl_append, List.foldl_cons, Decoder.start, hfold,
    Decoder.step_newline found hfront.isLong.isBeyondAscii, ← hfrontText, hback.foldl_eq,
    Decoder.finish_append, ← hbackText]
  simp

/-- The text of bytes without a newline has none. -/
theorem newline_notMem_decode {bytes : Bytes} (h : Input.newline ∉ bytes) :
    '\n' ∉ decode bytes := by
  obtain ⟨found, left, hfinds, htext⟩ := exists_decode_eq bytes
  have hfound : '\n' ∉ found := mt hfinds.newline_mem h
  have hreplacement : '\n' ≠ replacement := by decide
  rw [htext]
  cases left with
  | none => simpa [Decoder.finish] using hfound
  | within owed bits low high => simpa [Decoder.finish, hreplacement] using hfound

/-- Where there is a byte, there is a character. -/
theorem decode_eq_nil_iff {bytes : Bytes} : decode bytes = [] ↔ bytes = [] := by
  obtain ⟨found, left, hfinds, htext⟩ := exists_decode_eq bytes
  constructor
  · intro h
    by_contra hne
    rw [htext] at h
    rcases hfinds.ne_nil hne with hfound | hleft
    · cases left <;> simp [Decoder.finish, hfound] at h
    · cases left with
      | none => exact hleft rfl
      | within owed bits low high => simp [Decoder.finish] at h
  · rintro rfl
    rfl

/-! ## Line by line -/

/-- Bytes are a line without a newline, or such a line, a newline and more bytes. -/
theorem lines_induction {P : Bytes → Prop} (last : ∀ line, Input.newline ∉ line → P line)
    (next : ∀ line rest, Input.newline ∉ line → P rest → P (line ++ Input.newline :: rest))
    (bytes : Bytes) : P bytes := by
  induction hn : bytes.length using Nat.strongRecOn generalizing bytes with
  | ind n ih =>
    by_cases hmem : Input.newline ∈ bytes
    · obtain ⟨line, rest, rfl, hline⟩ := List.eq_append_cons_of_mem hmem
      refine next line rest hline (ih rest.length ?_ rest rfl)
      rw [← hn, List.length_append, List.length_cons]
      omega
    · exact last bytes hmem

/-- The lines of the text are the texts of the lines. -/
theorem splitOn_decode (bytes : Bytes) :
    (decode bytes).splitOn '\n' = (bytes.splitOn Input.newline).map decode := by
  induction bytes using lines_induction with
  | last line hline =>
    rw [List.splitOn_eq_singleton hline, List.splitOn_eq_singleton (newline_notMem_decode hline)]
    rfl
  | next line rest hline ih =>
    rw [decode_append_newline, List.splitOn_append_cons_self, List.splitOn_append_cons_self, ih,
      List.map_append, List.splitOn_eq_singleton hline,
      List.splitOn_eq_singleton (newline_notMem_decode hline)]
    rfl

/-- A sequence of three bytes is cut short by a newline, and its last byte stands behind it. -/
example :
    decode [0x61, 0xE2, 0x82, Input.newline, 0xAC] = ['a', replacement, '\n', replacement] := by
  decide

/-- There are as many newlines in the text as in the bytes. -/
theorem count_decode (bytes : Bytes) :
    (decode bytes).count '\n' = bytes.count Input.newline := by
  induction bytes using lines_induction with
  | last line hline =>
    rw [List.count_eq_zero.mpr hline, List.count_eq_zero.mpr (newline_notMem_decode hline)]
  | next line rest hline ih =>
    rw [decode_append_newline, List.count_append, List.count_append, List.count_cons_self,
      List.count_cons_self, ih, List.count_eq_zero.mpr hline,
      List.count_eq_zero.mpr (newline_notMem_decode hline)]

/-- Cut behind its newlines, the bytes are decoded piece by piece. -/
theorem flatMap_decode_cutBehind (bytes : Bytes) :
    (Input.cutBehind bytes).flatMap decode = decode bytes := by
  induction bytes using lines_induction with
  | last line hline =>
    rw [Input.cutBehind_of_not_mem hline]
    cases line with
    | nil => rfl
    | cons b line => simp
  | next line rest hline ih =>
    rw [Input.cutBehind_append_newline hline, List.flatMap_cons, ih, decode_append_newline,
      decode_append_newline, List.append_assoc]
    rfl

end CommandShell.Utf8

namespace CommandShell.Input

/-- The lines of a text: what is between its newlines, and what is behind the last of them if there
is something, unless reading fails there. -/
def linesOfText (failure : Option Failure) (text : List Char) : List (List Char) :=
  let parts := text.splitOn '\n'
  parts.dropLast ++ parts.getLast?.toList.filter fun last => failure.isNone && !last.isEmpty

/-- The lines of an input, decoded one by one, are those of its whole text. -/
theorem map_decode_lines (input : Input) :
    input.lines.map Utf8.decode = linesOfText input.failure (Utf8.decode input.data) := by
  have hempty (line : Bytes) : (Utf8.decode line).isEmpty = line.isEmpty := by
    rw [Bool.eq_iff_iff, List.isEmpty_iff, List.isEmpty_iff, Utf8.decode_eq_nil_iff]
  rw [lines_eq_splitLines, splitLines, linesOfText, Utf8.splitOn_decode, List.map_append,
    List.map_dropLast, List.getLast?_map]
  congr 1
  cases (input.data.splitOn newline).getLast? with
  | none => rfl
  | some last =>
    simp only [Option.toList_some, Option.map_some, List.filter_singleton, hempty]
    cases input.failure.isNone && !last.isEmpty <;> rfl

/-- The input as it would be if it had been written as text: each sequence that is not valid is
replaced, and the end is the same. -/
def mended (input : Input) : Input :=
  ⟨Utf8.encode (Utf8.decode input.data), input.failure⟩

theorem decode_mended (input : Input) :
    Utf8.decode input.mended.data = Utf8.decode input.data :=
  Utf8.decode_encode _

/-- Replacing what is not valid changes no line of the text. -/
theorem map_decode_lines_mended (input : Input) :
    input.mended.lines.map Utf8.decode = input.lines.map Utf8.decode := by
  rw [map_decode_lines, map_decode_lines, decode_mended]
  rfl

end CommandShell.Input
