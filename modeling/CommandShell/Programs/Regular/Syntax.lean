import CommandShell.Programs.Regular.ByteSet

/-!
# Regular Expressions

The regular expressions of standard programs. There are two ways to write them: in the basic one
the signs of groups, counts and choices have a backslash, in the extended one they have none.
-/

namespace CommandShell.Programs

/-- A place between two bytes. -/
inductive Boundary where
  /-- The beginning of a line. -/
  | lineStart
  /-- The end of a line. -/
  | lineEnd
  /-- The beginning of the text. -/
  | textStart
  /-- The end of the text. -/
  | textEnd
  /-- The beginning of a word. -/
  | wordStart
  /-- The end of a word. -/
  | wordEnd
  /-- The beginning or the end of a word. -/
  | wordEdge
  /-- Neither the beginning nor the end of a word. -/
  | noWordEdge
  deriving DecidableEq, Repr

/-- A regular expression. -/
inductive Regular where
  /-- The empty text. -/
  | empty
  /-- A byte of a set. -/
  | byte (set : ByteSet)
  /-- A place. -/
  | place (boundary : Boundary)
  /-- What a group has matched, once more. -/
  | again (group : Nat)
  /-- A group with its number. -/
  | group (number : Nat) (body : Regular)
  /-- One after the other. -/
  | both (first second : Regular)
  /-- One or the other. -/
  | either (first second : Regular)
  /-- At least so many times, and at most so many if there is a bound. -/
  | times (body : Regular) (least : Nat) (most : Option Nat)
  deriving DecidableEq, Repr

namespace Regular

/-- The text of a group occurs in it once more. -/
def hasAgain : Regular → Bool
  | .again _ => true
  | .group _ body | .times body _ _ => body.hasAgain
  | .both first second | .either first second => first.hasAgain || second.hasAgain
  | .empty | .byte _ | .place _ => false

/-- How many groups there are. -/
def groupCount : Regular → Nat
  | .group _ body => body.groupCount + 1
  | .times body _ _ => body.groupCount
  | .both first second | .either first second => first.groupCount + second.groupCount
  | .empty | .byte _ | .place _ | .again _ => 0

/-- How many parts the expression has. -/
def size : Regular → Nat
  | .group _ body | .times body _ _ => body.size + 1
  | .both first second | .either first second => first.size + second.size + 1
  | .empty | .byte _ | .place _ | .again _ => 1

/-- The expression with letters that match in either case. -/
def folded : Regular → Regular
  | .byte set => .byte set.folded
  | .group number body => .group number body.folded
  | .times body least most => .times body.folded least most
  | .both first second => .both first.folded second.folded
  | .either first second => .either first.folded second.folded
  | other => other

/-- A text as an expression that matches nothing else. -/
def ofText (text : Bytes) : Regular :=
  text.foldr (fun b rest => .both (.byte (.single b)) rest) .empty

end Regular

end CommandShell.Programs
