import CommandShell.Programs.Utility.Size

/-!
# Bytes in Other Forms

Programs that show the bytes of files as numbers or characters (`od`), write them with letters and
digits only (`base64`), or look for the first ones that differ (`cmp`).
-/

namespace CommandShell.Programs

/-- How numbers made of some bytes are shown: the letter of the form, and how many bytes there are
for each number. -/
structure DumpForm where
  /-- The letter. -/
  letter : Char
  /-- The number of bytes. -/
  size : Nat
  /-- The characters are shown after the numbers. -/
  hasText : Bool
  deriving DecidableEq, Repr

namespace DumpForm

/-- How many characters a number takes at most. -/
def width (form : DumpForm) : Nat :=
  let most := Nat.pow 256 form.size - 1
  match form.letter with
  | 'x' => form.size * 2
  | 'o' => (Nat.toDigits 8 most).length
  | 'u' => (Nat.toDigits 10 most).length
  | 'd' => (Nat.toDigits 10 (most / 2)).length + 1
  | _ => 3

/-- The names of characters that do not show. -/
def controlNames : List String :=
  ["nul", "soh", "stx", "etx", "eot", "enq", "ack", "bel", "bs", "ht", "nl", "vt", "ff", "cr", "so",
    "si", "dle", "dc1", "dc2", "dc3", "dc4", "nak", "syn", "etb", "can", "em", "sub", "esc", "fs",
    "gs", "rs", "us", "sp"]

/-- A byte as a character, or as an escape. -/
def characterText (b : UInt8) : String :=
  let c := Char.ofNat b.toNat
  match ['\x00', '\x07', '\x08', '\x0c', '\n', '\r', '\t', '\x0b'].idxOf? c with
  | some i => ((["\\0", "\\a", "\\b", "\\f", "\\n", "\\r", "\\t", "\\v"])[i]?).getD ""
  | none =>
    if ' ' ≤ c && c ≤ '~' then c.toString
    else
      let digits := String.ofList (Nat.toDigits 8 b.toNat)
      "".pushn '0' (3 - digits.length) ++ digits

/-- A number that some bytes are, the smallest one first. -/
def shown (form : DumpForm) (bytes : Bytes) : String :=
  let value := bytes.foldr (fun b value => value * 256 + b.toNat) 0
  let inBase (base : Nat) : String :=
    let digits := String.ofList (Nat.toDigits base value)
    "".pushn '0' (form.width - digits.length) ++ digits
  match form.letter with
  | 'x' => inBase 16
  | 'o' => inBase 8
  | 'u' => toString value
  | 'd' =>
    let modulus := Nat.pow 256 form.size
    if value * 2 < modulus then toString value else s!"-{modulus - value}"
  | 'a' =>
    let low := value % 128
    if low = 127 then "del" else (controlNames[low]?).getD (Char.ofNat low).toString
  | _ => characterText (UInt8.ofNat value)

/-- Cut bytes into pieces of a size; `fuel` bounds their number. -/
def pieces (size : Nat) : (fuel : Nat) → Bytes → List Bytes
  | 0, _ | _, [] => []
  | fuel + 1, bytes => bytes.take size :: pieces size fuel (bytes.drop size)

/-- A line of numbers; those of eight bytes take `pitch` characters, and the characters come after a
line for `count` bytes. -/
def line (form : DumpForm) (pitch count : Nat) (bytes : Bytes) : String :=
  let numbers := (pieces form.size bytes.length bytes).map fun piece =>
    padded (pitch * form.size / 8) (form.shown piece)
  let text := String.join numbers
  if form.hasText then
    let shown := bytes.map fun b =>
      let c := Char.ofNat b.toNat
      if ' ' ≤ c && c ≤ '~' then c else '.'
    paddedRight (pitch * count / 8) text ++ "  >" ++ String.ofList shown ++ "<"
  else text

/-- How many characters eight bytes take if all forms are to stand below each other. -/
def pitch (forms : List DumpForm) : Nat :=
  forms.foldl (fun most form => max most ((form.width + 1) * (8 / form.size))) 1

/-- Read forms as they are given in one argument; `fuel` bounds their number. -/
def readAll : (fuel : Nat) → List Char → Option (List DumpForm)
  | 0, _ => none
  | _, [] => some []
  | fuel + 1, letter :: rest =>
    let digits := rest.takeWhile Char.isDigit
    let (size, rest) := match rest with
      | 'C' :: rest => (1, rest)
      | 'S' :: rest => (2, rest)
      | 'I' :: rest => (4, rest)
      | 'L' :: rest => (8, rest)
      | _ =>
        if digits.isEmpty then (4, rest)
        else (((String.ofList digits).toNat?).getD 0, rest.drop digits.length)
    let size := if letter = 'a' || letter = 'c' then 1 else size
    let (hasText, rest) := match rest with
      | 'z' :: rest => (true, rest)
      | _ => (false, rest)
    if ['a', 'c', 'd', 'o', 'u', 'x'].contains letter && [1, 2, 4, 8].contains size then
      (readAll fuel rest).map (⟨letter, size, hasText⟩ :: ·)
    else none

/-- The forms that an option stands for. -/
def ofOption : Char × String → Option (List DumpForm)
  | ('t', value) => readAll (value.length + 1) value.toList
  | ('a', _) => some [⟨'a', 1, false⟩]
  | ('b', _) => some [⟨'o', 1, false⟩]
  | ('c', _) => some [⟨'c', 1, false⟩]
  | ('d', _) => some [⟨'u', 2, false⟩]
  | ('i', _) => some [⟨'d', 4, false⟩]
  | ('l', _) => some [⟨'d', 8, false⟩]
  | ('o', _) => some [⟨'o', 2, false⟩]
  | ('s', _) => some [⟨'d', 2, false⟩]
  | ('x', _) => some [⟨'x', 2, false⟩]
  | _ => some []

end DumpForm

/-- Rows of bytes with their addresses; a row like the one before is left out, and a sign stands for
such rows, unless all are wanted. -/
def dumpRows (isAll : Bool) (row : Nat → Bytes → String) (size : Nat) :
    (address : Nat) → (last : Option Bytes) → (starred : Bool) → List Bytes → String
  | _, _, _, [] => ""
  | address, last, starred, bytes :: rest =>
    let next := address + size
    if !isAll && last = some bytes then
      (if starred then "" else "*\n") ++ dumpRows isAll row size next last true rest
    else row address bytes ++ dumpRows isAll row size next (some bytes) false rest

/-- Show bytes as numbers or characters. -/
def od : Utility := fun call =>
  let names := [('A', "address-radix"), ('j', "skip-bytes"), ('N', "read-bytes"), ('t', "format"),
    ('v', "output-duplicates")]
  let flags := flagsOf "abcdilosxv" "AjNt" names ++ flagsAttached [('w', "width")]
  call.parsed flags 1 fun arguments =>
    match arguments.given.mapM DumpForm.ofOption with
    | none => call.refused 1 "invalid type string"
    | some given =>
      let forms := if given.flatten.isEmpty then [⟨'o', 2, false⟩] else given.flatten
      let count (letter : Char) : Option Nat := (arguments.value? letter).bind size?
      let size := match arguments.value? 'w' with
        | some "" => 32
        | some text => max 1 ((size? text).getD 16)
        | none => 16
      let skipped := (count 'j').getD 0
      let radix := (arguments.value? 'A').getD "o"
      let shownAddress (address : Nat) : String :=
        let inBase (base width : Nat) : String :=
          let digits := String.ofList (Nat.toDigits base address)
          "".pushn '0' (width - digits.length) ++ digits
        match radix with
        | "n" => ""
        | "d" => inBase 10 7
        | "x" => inBase 16 6
        | _ => inBase 8 7
      call.onEach 1 arguments.operands fun good =>
        let data := (good.flatMap (·.2)).drop skipped
        let data := (count 'N').elim data data.take
        let blank := "".pushn ' ' (shownAddress 0).length
        let pitch := DumpForm.pitch forms
        let row (address : Nat) (bytes : Bytes) : String :=
          String.join (forms.zipIdx.map fun (form, i) =>
            (if i = 0 then shownAddress address else blank) ++ form.line pitch size bytes ++ "\n")
        let rows := dumpRows (arguments.has 'v') row size skipped none false
          (DumpForm.pieces size data.length data)
        let ending := if radix = "n" || good.isEmpty then ""
          else shownAddress (skipped + data.length) ++ "\n"
        utf8 (rows ++ ending)

/-- The letters and digits that stand for six bits. -/
def sixBitLetters : List Char :=
  "ABCDEFGHIJKLMNOPQRSTUVWXYZabcdefghijklmnopqrstuvwxyz0123456789+/".toList

/-- The letter that stands for six bits. -/
def sixBitLetter (bits : Nat) : Char := (sixBitLetters[bits % 64]?).getD '='

/-- Write bytes with letters and digits, three of them with four. -/
def encodeSixBits : Bytes → List Char
  | a :: b :: c :: rest =>
    let value := a.toNat * 65536 + b.toNat * 256 + c.toNat
    [value / 262144, value / 4096, value / 64, value].map sixBitLetter ++ encodeSixBits rest
  | [a, b] =>
    let value := a.toNat * 65536 + b.toNat * 256
    [value / 262144, value / 4096, value / 64].map sixBitLetter ++ ['=']
  | [a] =>
    let value := a.toNat * 65536
    [value / 262144, value / 4096].map sixBitLetter ++ ['=', '=']
  | [] => []

/-- The bytes that letters and digits stand for, and whether all is well. -/
def decodeSixBits : List Char → Bytes × Bool
  | a :: b :: c :: d :: rest =>
    let value? (c : Char) : Option Nat := sixBitLetters.idxOf? c
    match value? a, value? b, value? c, value? d with
    | some a, some b, some c, some d =>
      let value := ((a * 64 + b) * 64 + c) * 64 + d
      let (others, isGood) := decodeSixBits rest
      (UInt8.ofNat (value / 65536) :: UInt8.ofNat (value / 256) :: UInt8.ofNat value :: others,
        isGood)
    | some a, some b, some c, none =>
      let value := (a * 64 + b) * 64 + c
      ([UInt8.ofNat (value / 1024), UInt8.ofNat (value / 4)], d = '=' && rest.isEmpty)
    | some a, some b, none, none =>
      ([UInt8.ofNat ((a * 64 + b) / 16)], c = '=' && d = '=' && rest.isEmpty)
    | _, _, _, _ => ([], false)
  | rest => ([], rest.isEmpty)

/-- Write bytes with letters and digits, or read such a text. -/
def base64 : Utility := fun call =>
  let flags := flagsOf "di" "w" [('d', "decode"), ('i', "ignore-garbage"), ('w', "wrap")]
  call.parsed flags 1 fun arguments =>
    match arguments.operands with
    | _ :: extra :: _ => call.unneeded 1 extra
    | paths =>
      if arguments.has 'd' then
        let contents := call.contents paths
        let data := contents.good.flatMap (·.2)
        let letters := (data.map fun b => Char.ofNat b.toNat).filter fun c =>
          c != '\n' && (!arguments.has 'i' || c = '=' || sixBitLetters.contains c)
        let (bytes, isGood) := decodeSixBits letters
        let complaints := call.complaintsAbout Call.plainly contents
        let mistake := if isGood then [] else call.complaint "invalid input"
        (call.reads paths (call.success bytes)).spoiled 1 (complaints ++ mistake)
      else
        let width := ((arguments.value? 'w').bind (·.toNat?)).getD 76
        call.onContents 1 paths fun data =>
          let letters := utf8 (String.ofList (encodeSixBits data))
          if width = 0 then letters else unlines (DumpForm.pieces width letters.length letters)

/-- The first position in which two texts differ, counted from one, if one does not run out
before. -/
def firstDifference : (position : Nat) → Bytes → Bytes → Option Nat
  | position, a :: as, b :: bs =>
    if a = b then firstDifference (position + 1) as bs else some position
  | _, _, _ => none

/-- Compare two files byte by byte. -/
def cmp : Utility := fun call =>
  let flags := flagsOf "bls" "in" [('b', "print-bytes"), ('l', "verbose"), ('s', "quiet")]
  call.parsed flags 2 fun arguments =>
    let paths := match arguments.operands with
      | [path] => [path, "-"]
      | paths => paths
    match paths with
    | [] => call.misused 2 s!"missing operand after {quoted call.name}"
    | [left, right] =>
      let contents := call.contents [left, right]
      match contents with
      | [(_, .ok first), (_, .ok second)] =>
        let limit := (arguments.value? 'n').bind size?
        let first := limit.elim first first.take
        let second := limit.elim second second.take
        let report (product : Product) : Product :=
          if arguments.has 's' then { product with output := [], complaints := [] } else product
        let shorter := if first.length < second.length then left else right
        let common := (min first.length second.length)
        match firstDifference 1 first second with
        | some position =>
          let line := (first.take (position - 1)).count Input.newline + 1
          let octal (b : UInt8) : String := padded 3 (String.ofList (Nat.toDigits 8 b.toNat))
          let all := ((first.zip second).zipIdx.filter fun (pair, _) => pair.1 != pair.2).map
            fun (pair, i) => s!"{i + 1} {octal pair.1} {octal pair.2}\n"
          let text := if arguments.has 'l' then String.join all
            else s!"{left} {right} differ: char {position}, line {line}\n"
          report (call.ended 1 (utf8 text))
        | none =>
          if first.length = second.length then call.success []
          else if common = 0 then report (call.refused 1 s!"EOF on {shorter} which is empty")
          else
            let lines := (first.take common).count Input.newline
            let isWhole := (first.take common).getLast? = some Input.newline
            let place := if isWhole then s!"line {lines}" else s!"in line {lines + 1}"
            report (call.refused 1 s!"EOF on {shorter} after byte {common}, {place}")
      | _ =>
        let plain (path : String) (failure : Failure) : String := s!"{path}: {failure.description}"
        (call.ended 2 []).spoiled 2 (call.complaintsAbout plain contents)
    | _ :: _ :: extra :: _ => call.misused 2 s!"invalid --ignore-initial value {quoted extra}"
    | [_] => call.ended 2 []

end CommandShell.Programs
