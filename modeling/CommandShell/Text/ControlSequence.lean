import CommandShell.Text.Utf8

/-!
# Control Sequences

Messages are shown without the control sequences by which a terminal is told to change colours or
to move: a sequence begins with an escape character, and what follows tells how far it reaches.
Other control characters are left out too, except those that stand for white space.

White space inside a short sequence is shown, and characters after it are shown as well, until the
next one that would be left out; there the sequence goes on.
-/

namespace CommandShell.Text

/-- Where a text stands with respect to control sequences. -/
inductive Sequence where
  /-- Outside of sequences. -/
  | outside
  /-- After the escape character. -/
  | escape
  /-- After the escape character and something that does not end the sequence. -/
  | intermediate
  /-- In a sequence of parameters, which ends with a letter. -/
  | parameters
  /-- In a command for the terminal, which ends with the bell. -/
  | command
  /-- In a string for the terminal, which only another sequence ends. -/
  | string
  deriving DecidableEq, Repr

/-- A character that is shown outside of sequences. -/
def isShown (c : Char) : Bool :=
  c = '\t' || c = '\n' || c = '\x0c' || c = '\r' || (' ' ≤ c && c ≠ '\x7f')

/-- White space that is shown inside short sequences. -/
def isShownWithin (c : Char) : Bool :=
  c = '\t' || c = '\n' || c = '\x0c' || c = '\r'

/-- The byte by which a character ends a string for the terminal, if it is among its bytes. -/
def stringEnd : UInt8 := 0x9c

namespace Sequence

/-- Where the text stands after a character that is left out. -/
def next (state : Sequence) (c : Char) : Sequence :=
  if c = '\x1b' then .escape
  else if c = '\x18' || c = '\x1a' then .outside
  else
    match state with
    | .outside => .outside
    | .escape =>
      if c = '[' then .parameters
      else if c = ']' then .command
      else if c = 'P' || c = 'X' || c = '^' || c = '_' then .string
      else if ' ' ≤ c && c ≤ '/' then .intermediate
      else if '0' ≤ c && c ≤ '~' then .outside
      else .escape
    | .intermediate => if '0' ≤ c && c ≤ '~' then .outside else .intermediate
    | .parameters => if '@' ≤ c && c ≤ '~' then .outside else .parameters
    | .command => if c = '\x07' then .outside else .command
    | .string => if (utf8 (String.singleton c)).contains stringEnd then .outside else .string

/-- The character is shown where the text stands. -/
def shows (state : Sequence) (c : Char) : Bool :=
  match state with
  | .outside => isShown c
  | .escape | .intermediate | .parameters => isShownWithin c
  | .command | .string => false

end Sequence

/-- The characters of a text that are shown; `going` tells that the one before was shown, and then
what stands outside of sequences is shown even inside of one. -/
def shownFrom (state : Sequence) (going : Bool) : List Char → List Char
  | [] => []
  | c :: rest =>
    if going && isShown c then
      c :: shownFrom (if '\x7f' < c then .outside else state) true rest
    else if state.shows c then c :: shownFrom state true rest
    else shownFrom (state.next c) false rest

/-- A text without control sequences. -/
def withoutSequences (text : String) : String :=
  String.ofList (shownFrom .outside false text.toList)

end CommandShell.Text
