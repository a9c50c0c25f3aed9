import CommandShell.Pattern.Cursor

/-!
# Escapes

What a backslash begins: a character that would otherwise have a meaning, a character by its
number or by a letter, a class, a property, or a condition on the place. The reader of an escape is
given the place of the backslash and a cursor at the character after it.
-/

namespace CommandShell.Pattern

/-- The character may be escaped to stand for itself: ASCII, neither letter nor digit, and not an
angle bracket. -/
def isEscapable (c : Char) : Bool :=
  c.toNat < 128 && !c.isAlphanum && c != '<' && c != '>'

/-- The character that a letter stands for after a backslash. -/
def controlEscape? : Char → Option Char
  | 'a' => some '\x07'
  | 'f' => some '\x0c'
  | 't' => some '\t'
  | 'n' => some '\n'
  | 'r' => some '\r'
  | 'v' => some '\x0b'
  | _ => none

/-- The condition on the place that a character stands for after a backslash. -/
def anchorEscape? : Char → Option Anchor
  | 'A' => some .textStart
  | 'z' => some .textEnd
  | 'B' => some .notWordBoundary
  | '<' => some .wordStart
  | '>' => some .wordEnd
  | _ => none

/-- The class that a letter stands for after a backslash, and whether it is what is outside it. -/
def classEscape? : Char → Option (ShortClass × Bool)
  | 'd' => some (.digit, false)
  | 'D' => some (.digit, true)
  | 's' => some (.space, false)
  | 'S' => some (.space, true)
  | 'w' => some (.word, false)
  | 'W' => some (.word, true)
  | _ => none

/-- The word boundary of a given name. -/
def namedBoundary? : String → Option Anchor
  | "start" => some .wordStart
  | "end" => some .wordEnd
  | "start-half" => some .wordStartHalf
  | "end-half" => some .wordEndHalf
  | _ => none

/-- The number of hexadecimal digits that follow a letter, where they are not in braces. -/
def hexWidth? : Char → Option Nat
  | 'x' => some 2
  | 'u' => some 4
  | 'U' => some 8
  | _ => none

/-- The value of a hexadecimal digit. -/
def hexDigit? (c : Char) : Option Nat :=
  if c.isDigit then some (c.toNat - '0'.toNat)
  else if 'a' ≤ c ∧ c ≤ 'f' then some (c.toNat - 'a'.toNat + 10)
  else if 'A' ≤ c ∧ c ≤ 'F' then some (c.toNat - 'A'.toNat + 10)
  else none

/-- The character with a given number, if there is one. -/
def charOf? (n : Nat) : Option Char :=
  if n.isValidChar then some (Char.ofNat n) else none

/-- Read `count` more hexadecimal digits; `first` tells that the next one is the first. -/
def readHexDigits : (count : Nat) → (first : Bool) → (value : Nat) → Cursor →
    Except Fault (Nat × Cursor)
  | 0, _, value, cur => .ok (value, cur.advanceSkipping)
  | count + 1, first, value, cur =>
    let cur := if first then cur else cur.advanceSkipping
    match cur.next? with
    | none => cur.failHere .escapeUnfinished
    | some c =>
      match hexDigit? c with
      | none => cur.failAtChar .hexInvalidDigit
      | some digit => readHexDigits count false (value * 16 + digit) cur

/-- A character by a fixed number of hexadecimal digits. -/
def readFixedHex (width : Nat) (start : Nat) (cur : Cursor) : Except Fault (Literal × Cursor) := do
  let (value, after) ← readHexDigits width true 0 cur
  match charOf? value with
  | none => after.failSince cur.offset .hexInvalid
  | some c => .ok (⟨after.since start, c, width == 2⟩, after)

/-- Read hexadecimal digits up to the closing brace; the cursor is at the character before them,
`fuel` bounds their number, and no value means that there is none. -/
def readBracedDigits : (fuel : Nat) → (value : Option Nat) → Cursor →
    Except Fault (Option Nat × Cursor)
  | 0, value, cur => .ok (value, cur)
  | fuel + 1, value, cur =>
    let cur := cur.advanceSkipping
    match cur.next? with
    | none | some '\x7d' => .ok (value, cur)
    | some c =>
      match hexDigit? c with
      | none => cur.failAtChar .hexInvalidDigit
      | some digit => readBracedDigits fuel (some (value.getD 0 * 16 + digit)) cur

/-- A character by hexadecimal digits in braces; the cursor is at the opening brace. -/
def readBracedHex (start : Nat) (cur : Cursor) : Except Fault (Literal × Cursor) := do
  let (value, last) ← readBracedDigits (cur.rest.length + 1) none cur
  if last.atEnd then
    last.failSince cur.offset .escapeUnfinished
  else
    let after := last.advanceSkipping
    match value with
    | none => after.failSince cur.offset .hexEmpty
    | some value =>
      match charOf? value with
      | none => last.failSince (cur.offset + 1) .hexInvalid
      | some c => .ok (⟨after.since start, c, false⟩, after)

/-- A character by its number, after the letter that announces `width` digits. -/
def readHex (width : Nat) (start : Nat) (cur : Cursor) : Except Fault (Literal × Cursor) :=
  let cur := cur.advanceSkipping
  match cur.next? with
  | none => cur.failHere .escapeUnfinished
  | some '\x7b' => readBracedHex start cur
  | some _ => readFixedHex width start cur

/-- Collect characters up to a closing brace; the cursor is at the character before them and
`fuel` bounds their number. -/
def readBraced : (fuel : Nat) → (name : List Char) → Cursor → List Char × Cursor
  | 0, name, cur => (name.reverse, cur)
  | fuel + 1, name, cur =>
    let cur := cur.advanceSkipping
    match cur.next? with
    | none | some '\x7d' => (name.reverse, cur)
    | some c => readBraced fuel (c :: name) cur

/-- Split a text at the first place where a separator stands. -/
def splitAt? (separator : List Char) : (before : List Char) → List Char →
    Option (List Char × List Char)
  | _, [] => none
  | before, c :: rest =>
    if separator.isPrefixOf (c :: rest) then
      some (before.reverse, (c :: rest).drop separator.length)
    else splitAt? separator (c :: before) rest

/-- The query that stands in braces: a name, or a name and a value separated by `!=`, `:` or `=`,
tried in this order; the first of these asks for what has not got the value. -/
def PropertyQuery.ofText (text : List Char) : PropertyQuery × Bool :=
  match splitAt? ['!', '='] [] text with
  | some (left, right) => (.value (String.ofList left) (String.ofList right), true)
  | none =>
    match (splitAt? [':'] [] text).or (splitAt? ['='] [] text) with
    | some (left, right) => (.value (String.ofList left) (String.ofList right), false)
    | none => (.name (String.ofList text), false)

/-- A property, after the letter `p` or `P`. -/
def readProperty (negated : Bool) (start : Nat) (cur : Cursor) :
    Except Fault (CharSet × Cursor) :=
  let cur := cur.advanceSkipping
  match cur.next? with
  | none => cur.failHere .escapeUnfinished
  | some '\x7b' =>
    let (text, cur) := readBraced (cur.rest.length + 1) [] cur
    if cur.atEnd then cur.failHere .escapeUnfinished
    else
      let cur := cur.advance
      let (query, differs) := PropertyQuery.ofText text
      .ok (.property (cur.since start) query (negated != differs), cur)
  | some '\\' => cur.failAtChar .propertyInvalid
  | some c =>
    let cur := cur.advanceSkipping
    .ok (.property (cur.since start) (.letter c) negated, cur)

/-- The character may stand in the name of a word boundary. -/
def isBoundaryNameChar (c : Char) : Bool :=
  c.isAlpha || c == '-'

/-- Collect the characters of the name of a word boundary; `fuel` bounds their number. -/
def readBoundaryName : (fuel : Nat) → (name : List Char) → Cursor → List Char × Cursor
  | 0, name, cur => (name.reverse, cur)
  | fuel + 1, name, cur =>
    match cur.next? with
    | some c =>
      if isBoundaryNameChar c then readBoundaryName fuel (c :: name) cur.advanceSkipping
      else (name.reverse, cur)
    | none => (name.reverse, cur)

/-- The name in braces that may follow `\b`; the cursor is at the opening brace. When what is in
the braces does not begin like a name, they are left for a counted repetition. -/
def readNamedBoundary? (start : Nat) (cur : Cursor) : Except Fault (Option (Anchor × Cursor)) :=
  let inner := cur.advanceSkipping
  match inner.next? with
  | none => inner.failSince start .boundaryUnfinished
  | some c =>
    if isBoundaryNameChar c then
      let (name, last) := readBoundaryName inner.rest.length [] inner
      if last.next? = some '\x7d' then
        match namedBoundary? (String.ofList name) with
        | some kind => .ok (some (kind, last.advance))
        | none => last.failSince inner.offset .boundaryUnrecognized
      else last.failSince cur.offset .boundaryUnclosed
    else .ok none

/-- A word boundary; the cursor is after `\b`. -/
def readBoundary (start : Nat) (cur : Cursor) : Except Fault (Node × Cursor) := do
  let plain := (.anchor (cur.since start) .wordBoundary, cur)
  if cur.next? = some '\x7b' then
    match ← readNamedBoundary? start cur with
    | some (kind, after) => return (.anchor (after.since start) kind, after)
    | none => return plain
  else
    return plain

/-- A character that stands for itself or for another one, or a condition on the place. -/
def readSimpleEscape (c : Char) (start : Nat) (cur : Cursor) : Except Fault (Node × Cursor) :=
  let after := cur.advance
  let span := after.since start
  if isEscapable c then .ok (.literal ⟨span, c, false⟩, after)
  else if c = 'b' then readBoundary start after
  else
    match controlEscape? c, anchorEscape? c with
    | some char, _ => .ok (.literal ⟨span, char, false⟩, after)
    | none, some kind => .ok (.anchor span kind, after)
    | none, none => .error (.inPart .escapeUnrecognized span)

/-- An escape; the cursor is at the backslash. -/
def readEscape (cur : Cursor) : Except Fault (Node × Cursor) :=
  let start := cur.offset
  let cur := cur.advance
  match cur.next? with
  | none => cur.failSince start .escapeUnfinished
  | some c =>
    if c.isDigit then cur.advance.failSince start .backreference
    else if c = 'p' ∨ c = 'P' then
      (readProperty (c = 'P') start cur).map fun (set, after) => (.oneOf set, after)
    else
      match hexWidth? c, classEscape? c with
      | some width, _ =>
        (readHex width start cur).map fun (literal, after) => (.literal literal, after)
      | none, some (kind, negated) =>
        .ok (.oneOf (.short (cur.advance.since start) kind negated), cur.advance)
      | none, none => readSimpleEscape c start cur

/-- A single part of a pattern that begins at the next character `c`, which has no other meaning:
an escape, a dot, a condition on the place, or the character itself. -/
def readItem (c : Char) (cur : Cursor) : Except Fault (Node × Cursor) :=
  let span := cur.charSpan
  match c with
  | '\\' => readEscape cur
  | '.' => .ok (.dot span, cur.advance)
  | '^' => .ok (.anchor span .caret, cur.advance)
  | '$' => .ok (.anchor span .dollar, cur.advance)
  | _ => .ok (.literal ⟨span, c, false⟩, cur.advance)

end CommandShell.Pattern
