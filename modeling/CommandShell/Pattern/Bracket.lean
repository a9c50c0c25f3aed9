import CommandShell.Pattern.Escape

/-!
# Brackets

Sets of characters in brackets: characters, ranges, classes, and further brackets, combined by the
operations `&&`, `--` and `~~`, which all bind alike and to the left. A `]` or a row of `-` right
after the opening stands for itself.

Brackets are read with a stack of those that are open; what has been read of each stays on it.
-/

namespace CommandShell.Pattern

/-- What has been read of a bracket since it was opened. -/
structure SetLevel where
  /-- The set in front of the last operation, and the operation. -/
  pending : Option (SetOperation × CharSet)
  /-- Where the members after the operation begin. -/
  place : Nat
  /-- The members read after the operation, last first. -/
  members : List CharSet
  deriving Repr

namespace SetLevel

/-- The set that has been read. -/
def toSet (level : SetLevel) : CharSet :=
  let right := CharSet.ofMembers level.place level.members
  match level.pending with
  | none => right
  | some (operation, left) => .combined ⟨left.span.start, right.span.stop⟩ operation left right

/-- Go on after an operation; `place` is where the next members begin. -/
def combine (level : SetLevel) (operation : SetOperation) (place : Nat) : SetLevel :=
  ⟨some (operation, level.toSet), place, []⟩

/-- Add a member. -/
def add (level : SetLevel) (member : CharSet) : SetLevel :=
  { level with members := member :: level.members }

end SetLevel

/-- A bracket that is still open. -/
structure OpenBracket where
  /-- The characters that open the bracket. -/
  span : Span
  /-- The bracket stands for what is outside it. -/
  negated : Bool
  /-- What has been read of it. -/
  level : SetLevel
  deriving Repr

/-- Add a member to an open bracket. -/
def OpenBracket.add (bracket : OpenBracket) (member : CharSet) : OpenBracket :=
  { bracket with level := bracket.level.add member }

/-- Close a bracket; `stop` is the offset after the closing character. -/
def OpenBracket.close (bracket : OpenBracket) (stop : Nat) : CharSet :=
  .bracketed ⟨bracket.span.start, stop⟩ bracket.negated bracket.level.toSet

/-- A character that stands for itself. -/
def plainMember (cur : Cursor) (c : Char) : CharSet :=
  .literal ⟨cur.charSpan, c, false⟩

/-- Collect the `-` that follow the opening of the bracket at `start`; `fuel` bounds their
number. -/
def readDashes (start : Nat) : (fuel : Nat) → (members : List CharSet) → Cursor →
    Except Fault (List CharSet × Cursor)
  | 0, members, cur => .ok (members, cur)
  | fuel + 1, members, cur =>
    if cur.next? = some '-' then
      let after := cur.advanceSkipping
      if after.atEnd then .error (.inPart .classUnclosed ⟨start, start⟩)
      else readDashes start fuel (plainMember cur '-' :: members) after
    else .ok (members, cur)

/-- Open a bracket; the cursor is at its first character. -/
def openBracket (cur : Cursor) : Except Fault (OpenBracket × Cursor) := do
  let start := cur.offset
  let first := cur.advanceSkipping
  let negated := first.next? = some '^'
  let first := if negated then first.advanceSkipping else first
  if first.atEnd then first.failSince start .classUnclosed
  else
    let (dashes, after) ← readDashes start first.rest.length [] first
    if dashes.isEmpty ∧ after.next? = some ']' then
      let last := after.advanceSkipping
      if last.atEnd then last.failSince start .classUnclosed
      else
        return (⟨last.since start, negated, none, first.offset, [plainMember after ']']⟩, last)
    else
      return (⟨after.since start, negated, none, first.offset, dashes⟩, after)

/-- A named class of ASCII characters such as `[:alpha:]` or `[:^alpha:]`, if that is next. -/
def readAsciiClass? (cur : Cursor) : Option (CharSet × Cursor) := do
  let inner ← cur.after? "[:"
  let negated := inner.next? = some '^'
  let inner := if negated then inner.advance else inner
  let after ← (inner.advanceWhile (· != ':')).after? ":]"
  let kind ← AsciiClass.ofName? (String.ofList (inner.rest.takeWhile (· != ':')))
  return (.ascii (after.since cur.offset) kind negated, after)

/-- An operation between sets, if that is next. -/
def readOperation? (cur : Cursor) : Option (SetOperation × Cursor) :=
  match cur.after? "&&", cur.after? "--", cur.after? "~~" with
  | some after, _, _ => some (.intersection, after)
  | none, some after, _ => some (.difference, after)
  | none, none, some after => some (.symmetricDifference, after)
  | none, none, none => none

/-- The member that an item stands for, unless it is a condition on the place. -/
def memberOf : Node → Except Fault CharSet
  | .literal one => .ok (.literal one)
  | .oneOf set => .ok set
  | other => .error (.inPart .classEscapeInvalid other.span)

/-- The end of a range that an item stands for, which must be a character. -/
def boundOf : Node → Except Fault Literal
  | .literal one => .ok one
  | other => .error (.inPart .classRangeLiteral other.span)

/-- An item of a bracket, beginning with the character `c`. -/
def readSetItem (c : Char) (cur : Cursor) : Except Fault (Node × Cursor) :=
  if c = '\\' then readEscape cur else .ok (.literal ⟨cur.charSpan, c, false⟩, cur.advance)

/-- A member of a bracket, beginning with the character `c`: an item, or a range between two. A
`-` in front of `]` or of another `-` makes no range. The bracket was opened by `opening`. -/
def readMember (opening : Span) (c : Char) (cur : Cursor) : Except Fault (CharSet × Cursor) := do
  let (first, after) ← readSetItem c cur
  let after := after.skipBlanks
  if after.atEnd then .error (.inPart .classUnclosed opening)
  else if after.next? ≠ some '-' ∨ after.peek? = some ']' ∨ after.peek? = some '-' then
    return (← memberOf first, after)
  else
    let second := after.advanceSkipping
    match second.next? with
    | none => .error (.inPart .classUnclosed opening)
    | some d =>
      let (last, after) ← readSetItem d second
      let span : Span := ⟨first.span.start, last.span.stop⟩
      let low ← boundOf first
      let high ← boundOf last
      if low.char ≤ high.char then return (.range span low high, after)
      else .error (.inPart .classRangeInvalid span)

/-- Read to the end of the outermost bracket: `inner` is the innermost one that is open, `outer`
are those around it, and `fuel` bounds the number of members. -/
def readBracketed : (fuel : Nat) → (inner : OpenBracket) → (outer : List OpenBracket) → Cursor →
    Except Fault (CharSet × Cursor)
  | 0, inner, _, _ => .error (.inPart .classUnclosed inner.span)
  | fuel + 1, inner, outer, cur =>
    let cur := cur.skipBlanks
    match cur.next? with
    | none => .error (.inPart .classUnclosed inner.span)
    | some '[' =>
      match readAsciiClass? cur with
      | some (set, after) => readBracketed fuel (inner.add set) outer after
      | none => do
        let (opened, after) ← openBracket cur
        readBracketed fuel opened (inner :: outer) after
    | some ']' =>
      let after := cur.advance
      let set := inner.close after.offset
      match outer with
      | [] => .ok (set, after)
      | parent :: others => readBracketed fuel (parent.add set) others after
    | some c =>
      match readOperation? cur with
      | some (operation, after) =>
        let level := inner.level.combine operation after.offset
        readBracketed fuel { inner with level } outer after
      | none => do
        let (member, after) ← readMember inner.span c cur
        readBracketed fuel (inner.add member) outer after

/-- A set in brackets; the cursor is at the opening one. -/
def readBracket (cur : Cursor) : Except Fault (CharSet × Cursor) := do
  let (opened, after) ← openBracket cur
  readBracketed cur.rest.length opened [] after

end CommandShell.Pattern
