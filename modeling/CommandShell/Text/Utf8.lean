/-!
# UTF-8

Text is written as UTF-8 and read back leniently: whatever is not valid is replaced by U+FFFD,
one replacement for each maximal subpart of a sequence, that is, for the longest run of bytes
that begins some valid sequence, or for a single byte that begins none.

The decoder is a fold over the bytes. Its state says which bytes may come next, so that decoding
can be cut anywhere and taken up again.
-/

namespace CommandShell

/-- A sequence of bytes: the contents of a file or of a stream. -/
abbrev Bytes := List UInt8

end CommandShell

namespace CommandShell.Utf8

/-- The bytes of a text. -/
def encode (cs : List Char) : Bytes :=
  cs.flatMap String.utf8EncodeChar

/-- The character that stands for bytes which are not UTF-8. -/
def replacement : Char := '\ufffd'

/-- What the decoder has seen of the current character. -/
inductive Pending where
  /-- Between characters. -/
  | none
  /-- Within a character: `owed` more bytes complete it, the bits so far are `bits`, and the next
  byte must lie between `low` and `high`. -/
  | within (owed : Nat) (bits : Nat) (low high : UInt8)
  deriving DecidableEq, Repr

/-- The state of a decoder: the characters decoded so far, last first, and the pending bytes. -/
structure Decoder where
  /-- The characters decoded so far, last first. -/
  decoded : List Char
  /-- What has been seen of the next character. -/
  pending : Pending
  deriving DecidableEq, Repr

namespace Decoder

/-- A decoder before its first byte. -/
def start : Decoder := ⟨[], .none⟩

/-- Take the first byte of a character. -/
def lead (decoded : List Char) (b : UInt8) : Decoder :=
  let bits := b.toNat
  if b < 0x80 then ⟨Char.ofNat bits :: decoded, .none⟩
  else if b < 0xC2 then ⟨replacement :: decoded, .none⟩
  else if b < 0xE0 then ⟨decoded, .within 1 (bits % 32) 0x80 0xBF⟩
  else if b == 0xE0 then ⟨decoded, .within 2 (bits % 16) 0xA0 0xBF⟩
  else if b == 0xED then ⟨decoded, .within 2 (bits % 16) 0x80 0x9F⟩
  else if b < 0xF0 then ⟨decoded, .within 2 (bits % 16) 0x80 0xBF⟩
  else if b == 0xF0 then ⟨decoded, .within 3 (bits % 8) 0x90 0xBF⟩
  else if b < 0xF4 then ⟨decoded, .within 3 (bits % 8) 0x80 0xBF⟩
  else if b == 0xF4 then ⟨decoded, .within 3 (bits % 8) 0x80 0x8F⟩
  else ⟨replacement :: decoded, .none⟩

/-- Take one byte. A byte that cannot continue the pending character ends it as a replacement and
begins a character of its own. -/
def step (d : Decoder) (b : UInt8) : Decoder :=
  match d.pending with
  | .none => lead d.decoded b
  | .within owed bits low high =>
    if low ≤ b && b ≤ high then
      let bits := bits * 64 + b.toNat % 64
      if owed ≤ 1 then ⟨Char.ofNat bits :: d.decoded, .none⟩
      else ⟨d.decoded, .within (owed - 1) bits 0x80 0xBF⟩
    else
      lead (replacement :: d.decoded) b

/-- The text decoded once the bytes have ended; an unfinished character is replaced. -/
def finish (d : Decoder) : List Char :=
  match d.pending with
  | .none => d.decoded.reverse
  | .within .. => (replacement :: d.decoded).reverse

end Decoder

/-- The text of some bytes, with U+FFFD for each maximal subpart that is not valid. -/
def decode (bytes : Bytes) : List Char :=
  (bytes.foldl Decoder.step .start).finish

/-- The text of some bytes when they are valid throughout. -/
def decode? (bytes : Bytes) : Option (List Char) :=
  let text := decode bytes
  if encode text = bytes then some text else none

end CommandShell.Utf8

namespace CommandShell

/-- The bytes of a string. -/
def utf8 (text : String) : Bytes :=
  Utf8.encode text.toList

/-- The string that some bytes spell, with U+FFFD for what is not valid. -/
def lossyText (bytes : Bytes) : String :=
  String.ofList (Utf8.decode bytes)

end CommandShell
