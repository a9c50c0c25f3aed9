/-!
# Faults in Patterns

A pattern that cannot be read is shown with marks under the part at fault, followed by the reason.
A pattern on one line is indented; a pattern of several lines is shown with numbered lines between
two rules, and a part that reaches over the end of a line is described instead of marked.
-/

namespace CommandShell.Pattern

/-- A part of a pattern: the characters from `start` up to but not including `stop`. -/
structure Span where
  /-- The number of characters before the part. -/
  start : Nat
  /-- The number of characters before the end of the part. -/
  stop : Nat
  deriving DecidableEq, Repr

/-- How many groups, brackets and repetitions may be nested. -/
def nestingLimit : Nat := 250

/-- Why a pattern cannot be read or used. -/
inductive Cause where
  /-- A bracket is never closed. -/
  | classUnclosed
  /-- An escape that stands for no character is used in a bracket. -/
  | classEscapeInvalid
  /-- A range ends before it starts. -/
  | classRangeInvalid
  /-- The end of a range is not a single character. -/
  | classRangeLiteral
  /-- A number is too large. -/
  | decimalInvalid
  /-- The braces of a hexadecimal escape are empty. -/
  | hexEmpty
  /-- A hexadecimal escape names no character. -/
  | hexInvalid
  /-- A hexadecimal escape holds something else than hexadecimal digits. -/
  | hexInvalidDigit
  /-- The pattern ends within an escape. -/
  | escapeUnfinished
  /-- A letter has no meaning after a backslash. -/
  | escapeUnrecognized
  /-- A minus sign among flags is followed by none. -/
  | flagDanglingNegation
  /-- A flag is given twice. -/
  | flagDuplicate
  /-- There are two minus signs among flags. -/
  | flagRepeatedNegation
  /-- The pattern ends among flags. -/
  | flagUnfinished
  /-- A letter is no flag. -/
  | flagUnrecognized
  /-- Two groups have the same name. -/
  | groupNameDuplicate
  /-- The name of a group is empty. -/
  | groupNameEmpty
  /-- A character may not stand in the name of a group. -/
  | groupNameInvalid
  /-- The pattern ends within the name of a group. -/
  | groupNameUnfinished
  /-- A group is never closed. -/
  | groupUnclosed
  /-- A group is closed that was never opened. -/
  | groupUnopened
  /-- The pattern is nested too deeply. -/
  | nestingTooDeep
  /-- The least count of a repetition exceeds the greatest. -/
  | countInvalid
  /-- The count of a repetition has no digits. -/
  | countEmpty
  /-- The count of a repetition is never closed. -/
  | countUnclosed
  /-- There is nothing to repeat. -/
  | repetitionMissing
  /-- A named word boundary is not closed, or has something else than letters in its name. -/
  | boundaryUnclosed
  /-- A word boundary has an unknown name. -/
  | boundaryUnrecognized
  /-- The pattern ends after the opening brace that follows a word boundary. -/
  | boundaryUnfinished
  /-- A property of one letter is named by a backslash. -/
  | propertyInvalid
  /-- Groups cannot be referred to. -/
  | backreference
  /-- Looking ahead or behind is not possible. -/
  | lookAround
  /-- The class is defined for Unicode only, which is switched off. -/
  | unicodeNotAllowed
  /-- The pattern could match a part of a character. -/
  | invalidUtf8
  /-- There is no property of that name. -/
  | propertyNotFound
  /-- The property has no value of that name. -/
  | propertyValueNotFound
  deriving DecidableEq, Repr

/-- The reason in words. -/
def Cause.message : Cause → String
  | .classUnclosed => "unclosed character class"
  | .classEscapeInvalid => "invalid escape sequence found in character class"
  | .classRangeInvalid => "invalid character class range, the start must be <= the end"
  | .classRangeLiteral => "invalid range boundary, must be a literal"
  | .decimalInvalid => "decimal literal invalid"
  | .hexEmpty => "hexadecimal literal empty"
  | .hexInvalid => "hexadecimal literal is not a Unicode scalar value"
  | .hexInvalidDigit => "invalid hexadecimal digit"
  | .escapeUnfinished => "incomplete escape sequence, reached end of pattern prematurely"
  | .escapeUnrecognized => "unrecognized escape sequence"
  | .flagDanglingNegation => "dangling flag negation operator"
  | .flagDuplicate => "duplicate flag"
  | .flagRepeatedNegation => "flag negation operator repeated"
  | .flagUnfinished => "expected flag but got end of regex"
  | .flagUnrecognized => "unrecognized flag"
  | .groupNameDuplicate => "duplicate capture group name"
  | .groupNameEmpty => "empty capture group name"
  | .groupNameInvalid => "invalid capture group character"
  | .groupNameUnfinished => "unclosed capture group name"
  | .groupUnclosed => "unclosed group"
  | .groupUnopened => "unopened group"
  | .nestingTooDeep =>
    s!"exceed the maximum number of nested parentheses/brackets ({nestingLimit})"
  | .countInvalid => "invalid repetition count range, the start must be <= the end"
  | .countEmpty => "repetition quantifier expects a valid decimal"
  | .countUnclosed => "unclosed counted repetition"
  | .repetitionMissing => "repetition operator missing expression"
  | .boundaryUnclosed =>
    "special word boundary assertion is either unclosed or contains an invalid character"
  | .boundaryUnrecognized =>
    "unrecognized special word boundary assertion, " ++
      "valid choices are: start, end, start-half or end-half"
  | .boundaryUnfinished =>
    "found either the beginning of a special word boundary or a bounded repetition on a \\b " ++
      "with an opening brace, but no closing brace"
  | .propertyInvalid => "invalid Unicode character class"
  | .backreference => "backreferences are not supported"
  | .lookAround => "look-around, including look-ahead and look-behind, is not supported"
  | .unicodeNotAllowed => "Unicode not allowed here"
  | .invalidUtf8 => "pattern can match invalid UTF-8"
  | .propertyNotFound => "Unicode property not found"
  | .propertyValueNotFound => "Unicode property value not found"

/-- A reason why a pattern cannot be used, with the part of the pattern at fault and, for things
given twice, the part that gave them first. -/
structure Fault where
  /-- The reason. -/
  cause : Cause
  /-- The part at fault. -/
  span : Span
  /-- The earlier part that the fault refers to. -/
  earlier : Option Span
  deriving DecidableEq, Repr

namespace Fault

/-- A fault of one part. -/
def inPart (cause : Cause) (span : Span) : Fault := ⟨cause, span, none⟩

/-- A place in a pattern: its line and its column, both counted from one. -/
structure Place where
  /-- The line. -/
  line : Nat
  /-- The column, in characters. -/
  column : Nat
  deriving DecidableEq, Repr

/-- The place after `n` more characters. -/
def placeAfter (place : Place) : (n : Nat) → List Char → Place
  | 0, _ => place
  | _, [] => place
  | n + 1, c :: rest =>
    if c = '\n' then placeAfter ⟨place.line + 1, 1⟩ n rest
    else placeAfter ⟨place.line, place.column + 1⟩ n rest

/-- The places where a part of the pattern starts and stops. -/
def places (pattern : List Char) (span : Span) : Place × Place :=
  (placeAfter ⟨1, 1⟩ span.start pattern, placeAfter ⟨1, 1⟩ span.stop pattern)

/-- The lines of a pattern, without their newlines and the carriage returns before those; text
after the last newline is a line if there is any. -/
def patternLines (current : List Char) : List Char → List (List Char)
  | [] => if current.isEmpty then [] else [current.reverse]
  | c :: rest =>
    if c = '\n' then
      let line := match current with
        | '\r' :: before => before
        | _ => current
      line.reverse :: patternLines [] rest
    else
      patternLines (c :: current) rest

/-- The parts at fault that lie on one line, as start and stop, in order. -/
def marked (pattern : List Char) (fault : Fault) : List (Place × Place) :=
  let spans := (fault.span :: fault.earlier.toList).mergeSort fun a b =>
    a.start < b.start || (a.start == b.start && a.stop ≤ b.stop)
  spans.map (places pattern)

/-- The marks under a line: `column` is the column reached so far. -/
def marks (column : Nat) : List (Place × Place) → List Char
  | [] => []
  | (first, last) :: rest =>
    let blanks := List.replicate (first.column - column) ' '
    let count := max 1 (last.column - first.column)
    blanks ++ List.replicate count '^' ++ marks (max column first.column + count) rest

/-- The lines of a pattern, each followed by the marks under it. -/
def annotated (label : Nat → String) (margin : String) (spans : List (Place × Place)) :
    (line : Nat) → List (List Char) → List String
  | _, [] => []
  | n, line :: rest =>
    let here := spans.filter fun span => span.1.line == n && span.2.line == n
    let notes := if here.isEmpty then [] else [margin ++ String.ofList (marks 1 here)]
    (label n ++ String.ofList line) :: notes ++ annotated label margin spans (n + 1) rest

/-- The description of a part that reaches over the end of a line. -/
def overview (span : Place × Place) : String :=
  let (first, last) := span
  s!"on line {first.line} (column {first.column}) " ++
    s!"through line {last.line} (column {last.column - 1})"

/-- A line number with blanks in front of it, `width` characters wide. -/
def lineLabel (width : Nat) (n : Nat) : String :=
  let digits := toString n
  String.ofList (List.replicate (width - digits.length) ' ') ++ digits ++ ": "

/-- The complaint about a pattern. -/
def render (pattern : List Char) (fault : Fault) : String :=
  let spans := marked pattern fault
  let lines := patternLines [] pattern
  let reason := "error: " ++ fault.cause.message
  let parts :=
    if pattern.contains '\n' then
      let count := lines.length + (if pattern.getLast? = some '\n' then 1 else 0)
      let width := if count ≤ 1 then 0 else (toString count).length
      let label := if width = 0 then fun _ => "    " else lineLabel width
      let margin := String.ofList (List.replicate (if width = 0 then 4 else width + 2) ' ')
      let rule := String.ofList (List.replicate 79 '~')
      let long := spans.filter fun span => span.1.line != span.2.line
      [rule] ++ annotated label margin spans 1 lines ++ [rule] ++ long.map overview ++ [reason]
    else
      annotated (fun _ => "    ") "    " spans 1 lines ++ [reason]
  "\n".intercalate ("regex parse error:" :: parts)

end Fault

end CommandShell.Pattern
