import CommandShell.Text.Blank
import CommandShell.Pattern.Node

/-!
# Reading Positions

A place in a pattern that is being read: what is still to be read, how much has been, and whether
blanks and comments are skipped there. Each small reader takes a cursor and gives what it read
with the cursor after it.
-/

namespace CommandShell.Pattern

/-- A place in a pattern that is being read. -/
structure Cursor where
  /-- The characters not yet read. -/
  rest : List Char
  /-- The number of characters read. -/
  offset : Nat
  /-- Blanks, and comments from `#` to the end of the line, are skipped. -/
  extended : Bool
  /-- The names that groups have been given, with their places. -/
  names : List (List Char × Span)
  deriving Repr

namespace Cursor

/-- The beginning of a pattern. -/
def start (pattern : List Char) : Cursor := ⟨pattern, 0, false, []⟩

/-- The character to be read next. -/
def next? (cur : Cursor) : Option Char := cur.rest.head?

/-- Nothing is left to be read. -/
def atEnd (cur : Cursor) : Bool := cur.rest.isEmpty

/-- The empty part at the cursor. -/
def here (cur : Cursor) : Span := ⟨cur.offset, cur.offset⟩

/-- The part taken by the next character. -/
def charSpan (cur : Cursor) : Span := ⟨cur.offset, cur.offset + 1⟩

/-- The part from `start` to the cursor. -/
def since (cur : Cursor) (start : Nat) : Span := ⟨start, cur.offset⟩

/-- Complain about the empty part at the cursor. -/
def failHere {α : Type} (cur : Cursor) (cause : Cause) : Except Fault α :=
  .error (.inPart cause cur.here)

/-- Complain about the next character. -/
def failAtChar {α : Type} (cur : Cursor) (cause : Cause) : Except Fault α :=
  .error (.inPart cause cur.charSpan)

/-- Complain about the part from `start` to the cursor. -/
def failSince {α : Type} (cur : Cursor) (start : Nat) (cause : Cause) : Except Fault α :=
  .error (.inPart cause (cur.since start))

/-- The cursor after the next `n` characters. -/
def advanceBy (cur : Cursor) (n : Nat) : Cursor :=
  { cur with rest := cur.rest.drop n, offset := cur.offset + (cur.rest.take n).length }

/-- The cursor after the next character. -/
def advance (cur : Cursor) : Cursor := cur.advanceBy 1

/-- What is left after blanks and comments, and the offset there; `comment` tells that the text
begins within a comment. -/
def withoutBlanks : (comment : Bool) → (offset : Nat) → List Char → Nat × List Char
  | _, offset, [] => (offset, [])
  | true, offset, c :: rest => withoutBlanks (c != '\n') (offset + 1) rest
  | false, offset, c :: rest =>
    if Text.isBlank c then withoutBlanks false (offset + 1) rest
    else if c = '#' then withoutBlanks true (offset + 1) rest
    else (offset, c :: rest)

/-- The cursor after blanks and comments, where those are skipped. -/
def skipBlanks (cur : Cursor) : Cursor :=
  if cur.extended then
    let (offset, rest) := withoutBlanks false cur.offset cur.rest
    { cur with rest, offset }
  else cur

/-- The cursor after the next character and the blanks and comments that follow it. -/
def advanceSkipping (cur : Cursor) : Cursor :=
  cur.advance.skipBlanks

/-- The cursor after the characters that satisfy `p`. -/
def advanceWhile (cur : Cursor) (p : Char → Bool) : Cursor :=
  cur.advanceBy (cur.rest.takeWhile p).length

/-- The cursor after a given text, if that is next. -/
def after? (cur : Cursor) (text : String) : Option Cursor :=
  if text.toList.isPrefixOf cur.rest then some (cur.advanceBy text.length) else none

/-- The character after the next one that is neither blank nor the beginning of a comment. -/
def visible? : (comment : Bool) → List Char → Option Char
  | _, [] => none
  | comment, c :: rest =>
    if Text.isBlank c then visible? comment rest
    else if c = '#' ∧ comment = false then visible? true rest
    else some c

/-- The character after the next one; where blanks are skipped, blanks between the two and a
single `#` do not count, unless nothing else is left. -/
def peek? (cur : Cursor) : Option Char :=
  let rest := cur.rest.drop 1
  if cur.extended then (visible? false rest).or rest.head? else rest.head?

end Cursor

end CommandShell.Pattern
