import CommandShell.Text.Integer
import CommandShell.Pattern.Bracket
import CommandShell.Pattern.Opening

/-!
# Reading Patterns

A pattern is read from left to right with a stack of the groups that are open. Each step reads one
item: a part of the current branch, a repetition of the part before it, the start of another
branch, or the beginning or end of a group. Once everything has been read, the depth to which the
parts are nested is checked.
-/

namespace CommandShell.Pattern

/-- What has been read since a group was opened, or since the pattern began. -/
structure Level where
  /-- Where the first branch begins. -/
  start : Nat
  /-- The finished branches, last first. -/
  branches : List Node
  /-- Where the current branch begins. -/
  branchStart : Nat
  /-- The parts of the current branch, last first. -/
  parts : List Node
  deriving Repr

namespace Level

/-- A level that begins at some place. -/
def startingAt (place : Nat) : Level := ⟨place, [], place, []⟩

/-- The current branch, if it ends at `stop`. -/
def branch (level : Level) (stop : Nat) : Node :=
  .ofParts ⟨level.branchStart, stop⟩ level.parts

/-- Go on with another branch; the bar between the two is at `stop`. -/
def nextBranch (level : Level) (stop : Nat) : Level :=
  { level with
    branches := level.branch stop :: level.branches, branchStart := stop + 1, parts := [] }

/-- The pattern that has been read, if it ends at `stop`. -/
def toNode (level : Level) (stop : Nat) : Node :=
  if level.branches.isEmpty then level.branch stop
  else .alternation ⟨level.start, stop⟩ (level.branch stop :: level.branches).reverse

/-- Add a part to the current branch. -/
def add (level : Level) (part : Node) : Level :=
  { level with parts := part :: level.parts }

end Level

/-- A group that is still open. -/
structure OpenGroup where
  /-- The opening parenthesis. -/
  span : Span
  /-- The flags that hold in the group only. -/
  change : FlagChange
  /-- Blanks are skipped outside the group. -/
  extended : Bool
  /-- What has been read outside the group. -/
  outside : Level
  deriving Repr

/-- A pattern of which a part has been read. -/
structure Progress where
  /-- What is still to be read. -/
  cursor : Cursor
  /-- What has been read of the innermost group. -/
  level : Level
  /-- The groups that are open, innermost first. -/
  groups : List OpenGroup
  deriving Repr

/-- The greatest number that counts repetitions. -/
def countLimit : Nat := Nat.pow 2 32 - 1

/-- Collect decimal digits; `fuel` bounds their number. -/
def readDigits : (fuel : Nat) → (digits : List Char) → Cursor → List Char × Cursor
  | 0, digits, cur => (digits.reverse, cur)
  | fuel + 1, digits, cur =>
    match cur.next? with
    | some c =>
      if c.isDigit then readDigits fuel (c :: digits) cur.advanceSkipping
      else (digits.reverse, cur)
    | none => (digits.reverse, cur)

/-- Read a number between blanks; the outcome says why there is none, if so, and the cursor is
after it in any case. -/
def readCount (cur : Cursor) : Except Fault Nat × Cursor :=
  let first := cur.advanceWhile Text.isBlank
  let (digits, last) := readDigits first.rest.length [] first
  let span := last.since first.offset
  let after := (last.advanceWhile Text.isBlank).skipBlanks
  match Text.readUnsigned countLimit digits with
  | .ok n => (.ok n, after)
  | .error .empty => (.error (.inPart .countEmpty span), after)
  | .error _ => (.error (.inPart .decimalInvalid span), after)

/-- Read the numbers of a counted repetition, up to the closing brace: how often at least, and how
often at most if there is a bound. The brace was opened at `start`. -/
def readCounts (start : Nat) (cur : Cursor) :
    Except Fault ((Nat × Option Nat) × Cursor) := do
  let (least, after) := readCount cur
  match after.next? with
  | none => after.failSince start .countUnclosed
  | some ',' =>
    let second := after.advanceSkipping
    match second.next? with
    | none => second.failSince start .countUnclosed
    | some '\x7d' => return ((← least, none), second)
    | some _ =>
      let least ← least
      let (most, last) := readCount second
      return ((least, some (← most)), last)
  | some _ =>
    let count ← least
    return ((count, some count), after)

/-- Pass the question mark that may follow a repetition. -/
def skipReluctance (cur : Cursor) : Cursor :=
  if cur.next? = some '?' then cur.advance else cur

/-- A repetition of `body` by the counts in braces; the cursor is at the opening brace. -/
def readCounted (body : Node) (cur : Cursor) : Except Fault (Node × Cursor) := do
  let start := cur.offset
  let first := cur.advanceSkipping
  if first.atEnd then first.failSince start .countUnclosed
  else
    let ((least, most), last) ← readCounts start first
    if last.next? ≠ some '\x7d' then last.failSince start .countUnclosed
    else
      let after := skipReluctance last.advanceSkipping
      if most.any (· < least) then after.failSince start .countInvalid
      else return (.repetition (after.since body.span.start) body least most, after)

/-- The counts that a sign of repetition stands for. -/
def repetitionSign? : Char → Option (Nat × Option Nat)
  | '?' => some (0, some 1)
  | '*' => some (0, none)
  | '+' => some (1, none)
  | _ => none

/-- Read a repetition that begins with `c`, of the pattern `body`. -/
def readRepetition (c : Char) (body : Node) (cur : Cursor) : Except Fault (Node × Cursor) :=
  match repetitionSign? c with
  | some (least, most) =>
    let after := skipReluctance cur.advance
    .ok (.repetition (after.since body.span.start) body least most, after)
  | none => readCounted body cur

namespace Progress

/-- Nothing has been read yet. -/
def start (pattern : List Char) : Progress :=
  ⟨.start pattern, .startingAt 0, []⟩

/-- Add a part to the current branch and go on at `after`. -/
def add (p : Progress) (part : Node) (after : Cursor) : Progress :=
  { p with cursor := after, level := p.level.add part }

/-- Read what begins with an opening parenthesis. -/
def openGroup (p : Progress) : Except Fault Progress := do
  let (opening, after) ← readOpening p.cursor
  match opening with
  | .flags span change =>
    let extended := (change.state? .extended).getD p.cursor.extended
    return p.add (.flags span change) { after with extended }
  | .group span change =>
    let extended := (change.state? .extended).getD p.cursor.extended
    let group : OpenGroup := ⟨span, change, p.cursor.extended, p.level⟩
    return ⟨{ after with extended }, .startingAt after.offset, group :: p.groups⟩

/-- Close the innermost group. -/
def closeGroup (p : Progress) : Except Fault Progress :=
  match p.groups with
  | [] => p.cursor.failAtChar .groupUnopened
  | group :: others =>
    let after := p.cursor.advance
    let body := p.level.toNode p.cursor.offset
    let node : Node := .group ⟨group.span.start, after.offset⟩ group.change body
    .ok ⟨{ after with extended := group.extended }, group.outside.add node, others⟩

/-- Read the repetition of the part before it that begins with `c`. -/
def repeatLast (p : Progress) (c : Char) : Except Fault Progress := do
  match p.level.parts with
  | [] => p.cursor.failHere .repetitionMissing
  | body :: parts =>
    if body.isRepeatable then
      let (node, after) ← readRepetition c body p.cursor
      return ⟨after, { p.level with parts := node :: parts }, p.groups⟩
    else p.cursor.failHere .repetitionMissing

/-- Read the item that begins with `c`. -/
def step (p : Progress) (c : Char) : Except Fault Progress := do
  match c with
  | '(' => p.openGroup
  | ')' => p.closeGroup
  | '|' => return { p with cursor := p.cursor.advance, level := p.level.nextBranch p.cursor.offset }
  | '[' =>
    let (set, after) ← readBracket p.cursor
    return p.add (.oneOf set) after
  | '?' | '*' | '+' | '\x7b' => p.repeatLast c
  | _ =>
    let (item, after) ← readItem c p.cursor
    return p.add item after

/-- Read to the end; `fuel` bounds the number of items. -/
def run : (fuel : Nat) → Progress → Except Fault Progress
  | 0, p => .ok p
  | fuel + 1, p =>
    let cursor := p.cursor.skipBlanks
    match cursor.next? with
    | none => .ok { p with cursor }
    | some c => do run fuel (← step { p with cursor } c)

/-- The pattern that has been read when nothing is left. -/
def finish (p : Progress) : Except Fault Node :=
  match p.groups with
  | [] => .ok (p.level.toNode p.cursor.offset)
  | group :: _ => .error (.inPart .groupUnclosed group.span)

end Progress

/-- Read a pattern, nested to any depth. -/
def read (pattern : List Char) : Except Fault Node := do
  (← Progress.run (pattern.length + 1) (.start pattern)).finish

end CommandShell.Pattern
