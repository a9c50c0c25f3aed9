import CommandShell.Programs.Regular.Syntax

/-!
# Reading Regular Expressions

How the text of a regular expression is read. A sign that cannot have its usual meaning where it
stands, such as a star at the beginning, stands for itself.
-/

namespace CommandShell.Programs.Regular

/-- What is wrong with the text of a regular expression. -/
inductive Fault where
  /-- A bracket is not closed. -/
  | openBracket
  /-- A group is not closed. -/
  | openGroup
  /-- A group is closed that is not open. -/
  | closedGroup
  /-- A count is not closed. -/
  | openCount
  /-- A count is none. -/
  | badCount
  /-- There is nothing that could be repeated. -/
  | nothingBefore
  /-- The last byte is a backslash. -/
  | trailingBackslash
  /-- There is no such group. -/
  | noGroup
  /-- The ends of a range are in the wrong order. -/
  | badRange
  /-- There is no such class. -/
  | noClass
  deriving DecidableEq, Repr

/-- The wording of a fault. -/
def Fault.message : Fault → String
  | .openBracket => "Unmatched [, [^, [:, [., or [="
  | .openGroup => "Unmatched ( or \\("
  | .closedGroup => "Unmatched ) or \\)"
  | .openCount => "Unmatched \\\x7b"
  | .badCount => "Invalid content of \\\x7b\\\x7d"
  | .nothingBefore => "Invalid preceding regular expression"
  | .trailingBackslash => "Trailing backslash"
  | .noGroup => "Invalid back reference"
  | .badRange => "Invalid range end"
  | .noClass => "Invalid character class name"

/-- A member of a bracket: a byte, or all bytes of a class. -/
inductive BracketMember where
  /-- A byte, which may be the end of a range. -/
  | byte (b : UInt8)
  /-- The bytes of a class. -/
  | named (isMember : UInt8 → Bool)

/-- Read a member of a bracket. -/
def readMember (text : Bytes) : Except Fault (BracketMember × Bytes) :=
  match text with
  | [] => .error .openBracket
  | 0x5B :: 0x3A :: rest =>
    let name := rest.takeWhile isLetterByte
    match rest.drop name.length with
    | 0x3A :: 0x5D :: rest =>
      match byteClasses.lookup (lossyText name) with
      | some isMember => .ok (.named isMember, rest)
      | none => .error .noClass
    | [] => .error .openBracket
    | _ => .ok (.byte 0x5B, 0x3A :: rest)
  | 0x5B :: 0x3D :: b :: 0x3D :: 0x5D :: rest => .ok (.byte b, rest)
  | 0x5B :: 0x2E :: b :: 0x2E :: 0x5D :: rest => .ok (.byte b, rest)
  | b :: rest => .ok (.byte b, rest)

/-- Read the members of a bracket up to its end; `fuel` bounds their number. -/
def readMembers : (fuel : Nat) → (isFirst : Bool) → Bytes →
    Except Fault (List (UInt8 → Bool) × Bytes)
  | 0, _, _ => .error .openBracket
  | _, false, 0x5D :: rest => .ok ([], rest)
  | fuel + 1, _, text => do
    let (member, rest) ← readMember text
    match member, rest with
    | .named isMember, _ =>
      let (others, rest) ← readMembers fuel false rest
      return (isMember :: others, rest)
    | .byte b, 0x2D :: c :: after =>
      if c = 0x5D then
        let (others, rest) ← readMembers fuel false rest
        return ((· == b) :: others, rest)
      else
        match ← readMember (c :: after) with
        | (.named _, _) => .error .badRange
        | (.byte last, rest) =>
          if last < b then .error .badRange
          else
            let (others, rest) ← readMembers fuel false rest
            return ((fun x => b ≤ x && x ≤ last) :: others, rest)
    | .byte b, _ =>
      let (others, rest) ← readMembers fuel false rest
      return ((· == b) :: others, rest)

/-- Read a bracket after its first sign. -/
def readBracket (text : Bytes) : Except Fault (Regular × Bytes) := do
  let (negated, text) := match text with
    | 0x5E :: rest => (true, rest)
    | _ => (false, text)
  let (members, rest) ← readMembers (text.length + 1) true text
  let set := ByteSet.ofTest fun b => members.any (· b) != negated
  return (.byte set, rest)

/-- Read a count up to its end, `N`, `N,` or `N,M`. -/
def readCount (text : Bytes) : Option (Nat × Option Nat × Bytes) :=
  let first := text.takeWhile isDigitByte
  let value (digits : Bytes) : Nat := digits.foldl (fun n b => n * 10 + (b.toNat - 0x30)) 0
  match text.drop first.length with
  | 0x2C :: rest =>
    let last := rest.takeWhile isDigitByte
    if first.isEmpty && last.isEmpty then some (0, none, rest)
    else
      some (value first, if last.isEmpty then none else some (value last), rest.drop last.length)
  | rest => if first.isEmpty then none else some (value first, some (value first), rest)

/-- Read a count with its closing sign; the result is nothing if there is none in the extended
way. -/
def readBraces (extended : Bool) (text : Bytes) :
    Except Fault (Option (Nat × Option Nat × Bytes)) :=
  let refused (fault : Fault) : Except Fault (Option (Nat × Option Nat × Bytes)) :=
    if extended then .ok none else .error fault
  match readCount text with
  | none => refused (if text.isEmpty then .openCount else .badCount)
  | some (least, most, rest) =>
    let closed? : Option Bytes := match extended, rest with
      | true, 0x7D :: rest => some rest
      | false, 0x5C :: 0x7D :: rest => some rest
      | _, _ => none
    match closed? with
    | none => refused (if rest.isEmpty then .openCount else .badCount)
    | some rest =>
      if most.any (· < least) then .error .badCount else .ok (some (least, most, rest))

/-- Read the signs after an item that tell how often it occurs; `fuel` bounds their number. -/
def readTimes (extended : Bool) : (fuel : Nat) → Regular → Bytes → Except Fault (Regular × Bytes)
  | 0, item, text => .ok (item, text)
  | fuel + 1, item, text =>
    let goOn (least : Nat) (most : Option Nat) (rest : Bytes) : Except Fault (Regular × Bytes) :=
      readTimes extended fuel (.times item least most) rest
    match extended, text with
    | _, 0x2A :: rest => goOn 0 none rest
    | true, 0x2B :: rest => goOn 1 none rest
    | true, 0x3F :: rest => goOn 0 (some 1) rest
    | false, 0x5C :: 0x2B :: rest => goOn 1 none rest
    | false, 0x5C :: 0x3F :: rest => goOn 0 (some 1) rest
    | true, 0x7B :: rest => do
      match ← readBraces true rest with
      | some (least, most, rest) => goOn least most rest
      | none => return (item, text)
    | false, 0x5C :: 0x7B :: rest => do
      match ← readBraces false rest with
      | some (least, most, rest) => goOn least most rest
      | none => return (item, text)
    | _, _ => .ok (item, text)

/-- A letter after a backslash that stands for a class or a place. -/
def named? (c : UInt8) : Option Regular :=
  let isSpace (b : UInt8) : Bool := b = 0x20 || (0x09 ≤ b && b ≤ 0x0D)
  match Char.ofNat c.toNat with
  | 'w' => some (.byte (.ofTest isWordByte))
  | 'W' => some (.byte (.ofTest (!isWordByte ·)))
  | 's' => some (.byte (.ofTest isSpace))
  | 'S' => some (.byte (.ofTest (!isSpace ·)))
  | 'b' => some (.place .wordEdge)
  | 'B' => some (.place .noWordEdge)
  | '<' => some (.place .wordStart)
  | '>' => some (.place .wordEnd)
  | '\x60' => some (.place .textStart)
  | '\'' => some (.place .textEnd)
  | _ => none

/-- A dollar sign that `rest` follows is at the end of what is read. -/
def isAtEnd (extended : Bool) (rest : Bytes) : Bool :=
  match extended, rest with
  | true, _ | _, [] | _, 0x5C :: 0x29 :: _ | _, 0x5C :: 0x7C :: _ => true
  | _, _ => false

/-- How reading stands: how many groups have begun, and which have ended. -/
structure Progress where
  /-- How many groups have begun. -/
  begun : Nat
  /-- The numbers of the groups that have ended. -/
  ended : List Nat
  deriving DecidableEq, Repr

/-- What begins a choice, ends a group, or is anything else. -/
inductive Mark where
  /-- The next choice begins. -/
  | choice
  /-- The group ends. -/
  | close
  /-- A group begins. -/
  | openGroup
  deriving DecidableEq, Repr

/-- The mark that a text begins with, and what follows it. -/
def mark? (extended : Bool) : Bytes → Option (Mark × Bytes)
  | 0x5C :: c :: rest =>
    if extended then none
    else
      match Char.ofNat c.toNat with
      | '|' => some (.choice, rest)
      | ')' => some (.close, rest)
      | '(' => some (.openGroup, rest)
      | _ => none
  | c :: rest =>
    if !extended then none
    else
      match Char.ofNat c.toNat with
      | '|' => some (.choice, rest)
      | ')' => some (.close, rest)
      | '(' => some (.openGroup, rest)
      | _ => none
  | [] => none

mutual

/-- Read choices up to the end of a group or of the text; `fuel` bounds the number of steps, and
`isInner` tells that a group is open. -/
def readChoices (extended : Bool) : (fuel : Nat) → (isInner : Bool) → Progress → Bytes →
    Except Fault (Regular × Progress × Bytes)
  | 0, _, _, _ => .error .openGroup
  | fuel + 1, isInner, progress, text => do
    let (first, progress, rest) ← readItems extended fuel isInner true progress text
    match mark? extended rest with
    | some (.choice, rest) =>
      let (second, progress, rest) ← readChoices extended fuel isInner progress rest
      return (.either first second, progress, rest)
    | _ => return (first, progress, rest)

/-- Read items one after the other; `isFirst` tells that none has been read yet. -/
def readItems (extended : Bool) : (fuel : Nat) → (isInner isFirst : Bool) → Progress → Bytes →
    Except Fault (Regular × Progress × Bytes)
  | 0, _, _, _, _ => .error .openGroup
  | fuel + 1, isInner, isFirst, progress, text =>
    match text, mark? extended text with
    | [], _ => .ok (.empty, progress, [])
    | _, some (.choice, _) => .ok (.empty, progress, text)
    | _, some (.close, _) =>
      if isInner then .ok (.empty, progress, text) else .error .closedGroup
    | _, mark => do
      let (item, isAnchor, progress, rest) ← readItem extended fuel isFirst progress text mark
      let (item, rest) ← if isAnchor && !extended then pure (item, rest)
        else readTimes extended rest.length item rest
      let (others, progress, rest) ←
        readItems extended fuel isInner (isFirst && isAnchor) progress rest
      return (.both item others, progress, rest)

/-- Read an item; the second result tells that it is the sign for the beginning of a line. -/
def readItem (extended : Bool) : (fuel : Nat) → (isFirst : Bool) → Progress → Bytes →
    Option (Mark × Bytes) → Except Fault (Regular × Bool × Progress × Bytes)
  | 0, _, _, _, _ => .error .openGroup
  | fuel + 1, isFirst, progress, text, mark =>
    let plain (b : UInt8) (rest : Bytes) : Except Fault (Regular × Bool × Progress × Bytes) :=
      .ok (.byte (.single b), false, progress, rest)
    match mark, text with
    | some (.openGroup, rest), _ => do
      let number := progress.begun + 1
      let inside := { progress with begun := number }
      let (body, progress, rest) ← readChoices extended fuel true inside rest
      match mark? extended rest with
      | some (.close, rest) =>
        let progress := { progress with ended := number :: progress.ended }
        return (.group number body, false, progress, rest)
      | _ => .error .openGroup
    | _, [] => .ok (.empty, false, progress, [])
    | _, [0x5C] => .error .trailingBackslash
    | _, 0x5C :: c :: rest =>
      match named? c with
      | some item => .ok (item, false, progress, rest)
      | none =>
        if 0x31 ≤ c && c ≤ 0x39 then
          let number := c.toNat - 0x30
          if progress.ended.contains number then .ok (.again number, false, progress, rest)
          else .error .noGroup
        else if c = 0x7B && !extended && isFirst then .error .nothingBefore
        else plain c rest
    | _, 0x5B :: rest => do
      let (set, rest) ← readBracket rest
      return (set, false, progress, rest)
    | _, 0x2E :: rest => .ok (.byte (.ofTest (· != 0)), false, progress, rest)
    | _, 0x5E :: rest =>
      if extended || isFirst then .ok (.place .lineStart, true, progress, rest)
      else plain 0x5E rest
    | _, 0x24 :: rest =>
      if isAtEnd extended rest then .ok (.place .lineEnd, false, progress, rest)
      else plain 0x24 rest
    | _, b :: rest =>
      if extended && isFirst && (b = 0x2A || b = 0x2B || b = 0x3F) then
        .ok (.empty, true, progress, rest)
      else plain b rest

end

/-- Read a regular expression. -/
def read (extended : Bool) (text : Bytes) : Except Fault Regular := do
  let (regular, _, _) ← readChoices extended (text.length * 4 + 8) false ⟨0, []⟩ text
  return regular

end CommandShell.Programs.Regular
