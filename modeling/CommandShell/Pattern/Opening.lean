import CommandShell.Pattern.Escape
import CommandShell.Unicode.Property

/-!
# Opening Parentheses

What an opening parenthesis begins: a group, which may have a name or flags of its own, or a
setting of flags that is complete with its closing parenthesis.
-/

namespace CommandShell.Pattern

/-- What an opening parenthesis begins. -/
inductive Opening where
  /-- A group with flags of its own. -/
  | group (span : Span) (change : FlagChange)
  /-- A setting of flags. -/
  | flags (span : Span) (change : FlagChange)
  deriving Repr

/-- An item in a list of flags: a flag, or the sign that those after it are switched off. -/
inductive FlagItem where
  /-- A flag. -/
  | flag (flag : Flag)
  /-- The sign that switches the flags after it off. -/
  | negation
  deriving DecidableEq, Repr

/-- What a list of flags switches on and off, once a sign has stood in front of it if
`negated`. -/
def flagChange : (negated : Bool) → List FlagItem → FlagChange
  | _, [] => []
  | _, .negation :: rest => flagChange true rest
  | negated, .flag flag :: rest => (flag, !negated) :: flagChange negated rest

/-- What a change says about a flag, if anything. -/
def FlagChange.state? (change : FlagChange) (flag : Flag) : Option Bool :=
  change.lookup flag

/-- The item that a character stands for in a list of flags. -/
def FlagItem.ofChar? (c : Char) : Option FlagItem :=
  if c = '-' then some .negation else (Flag.ofChar? c).map .flag

/-- The complaint that an item is given again. -/
def FlagItem.repeated : FlagItem → Cause
  | .flag _ => .flagDuplicate
  | .negation => .flagRepeatedNegation

/-- Read flags up to a colon or a closing parenthesis: `items` holds those read so far, last first,
with their places; `fuel` bounds their number. -/
def readFlagItems : (fuel : Nat) → (items : List (FlagItem × Span)) → Cursor →
    Except Fault (List (FlagItem × Span) × Cursor)
  | 0, items, cur => .ok (items, cur)
  | fuel + 1, items, cur =>
    match cur.next? with
    | none => cur.failHere .flagUnfinished
    | some c =>
      if c = ':' ∨ c = ')' then .ok (items, cur)
      else
        match FlagItem.ofChar? c with
        | none => cur.failAtChar .flagUnrecognized
        | some item =>
          match items.lookup item with
          | some earlier => .error ⟨item.repeated, cur.charSpan, some earlier⟩
          | none => readFlagItems fuel ((item, cur.charSpan) :: items) cur.advance

/-- Read flags up to a colon or a closing parenthesis. -/
def readFlags (cur : Cursor) : Except Fault (FlagChange × Cursor) := do
  let (items, after) ← readFlagItems (cur.rest.length + 1) [] cur
  match items with
  | (.negation, span) :: _ => .error (.inPart .flagDanglingNegation span)
  | _ => return (flagChange false (items.reverse.map (·.1)), after)

/-- The character may stand in the name of a group; `first` tells that it begins the name. -/
def isGroupNameChar (first : Bool) (c : Char) : Bool :=
  if first then c == '_' || Unicode.isAlphabetic c
  else c == '_' || c == '.' || c == '[' || c == ']' || Unicode.isAlphanumeric c

/-- Read the characters of a name up to `>`: `name` holds those read so far, last first, and
`fuel` bounds their number. -/
def readNameChars : (fuel : Nat) → (name : List Char) → Cursor →
    Except Fault (List Char × Cursor)
  | 0, name, cur => .ok (name.reverse, cur)
  | fuel + 1, name, cur =>
    match cur.next? with
    | none => cur.failHere .groupNameUnfinished
    | some c =>
      if c = '>' then .ok (name.reverse, cur)
      else if isGroupNameChar name.isEmpty c then readNameChars fuel (c :: name) cur.advance
      else cur.failAtChar .groupNameInvalid

/-- Read the name of a group and its closing `>`. No two groups may have the same name. -/
def readGroupName (cur : Cursor) : Except Fault Cursor := do
  let (name, last) ← readNameChars (cur.rest.length + 1) [] cur
  let span := last.since cur.offset
  if name.isEmpty then .error (.inPart .groupNameEmpty cur.here)
  else
    match last.names.lookup name with
    | some earlier => .error ⟨.groupNameDuplicate, span, some earlier⟩
    | none => return { last.advance with names := (name, span) :: last.names }

/-- The beginnings of what would look ahead or behind. -/
def lookAroundMarks : List String := ["?=", "?!", "?<=", "?<!"]

/-- The beginnings of a name. -/
def nameMarks : List String := ["?P<", "?<"]

/-- Read flags, and the colon or the parenthesis after them; the cursor is after the question
mark, and `start` is the offset of the opening parenthesis. Without any flag, a closing
parenthesis leaves the question mark, at `mark`, with nothing to repeat. -/
def readFlagOpening (start mark : Nat) (cur : Cursor) : Except Fault (Opening × Cursor) := do
  if cur.atEnd then .error (.inPart .groupUnclosed ⟨start, start + 1⟩)
  else
    let (change, last) ← readFlags cur
    let after := last.advance
    if last.next? = some ')' then
      if change.isEmpty then .error (.inPart .repetitionMissing ⟨mark, mark⟩)
      else return (.flags (after.since start) change, after)
    else return (.group ⟨start, start + 1⟩ change, after)

/-- Read what an opening parenthesis begins; the cursor is at the parenthesis. -/
def readOpening (cur : Cursor) : Except Fault (Opening × Cursor) :=
  let start := cur.offset
  let cur := cur.advanceSkipping
  let span : Span := ⟨start, start + 1⟩
  match lookAroundMarks.findSome? cur.after?, nameMarks.findSome? cur.after? with
  | some after, _ => after.failSince start .lookAround
  | none, some after => do return (.group span [], ← readGroupName after)
  | none, none =>
    match cur.after? "?" with
    | some after => readFlagOpening start cur.offset after
    | none => .ok (.group span [], cur)

end CommandShell.Pattern
