import CommandShell.Stream.Input
import CommandShell.Pattern.Compiled

/-!
# Searching Lines

Which lines of an input are shown in a search: those that match, and the lines that follow a match
as its context. A match within a context starts the context anew. Where a context runs to its end,
a separator is shown; a context that is cut short by the end of the input has none.

The selection does not depend on what lines are, so it is made for lines of any kind.
-/

namespace CommandShell.Search

/-- What a search shows. -/
inductive Shown (α : Type) where
  /-- A line, matching or in the context of a match. -/
  | line (text : α)
  /-- The end of a context. -/
  | separator
  deriving DecidableEq, Repr

/-- A search up to some line. -/
structure Selection (α : Type) where
  /-- How many more lines belong to the context of the last match. -/
  remaining : Nat
  /-- What has been shown, last first. -/
  shown : List (Shown α)
  deriving DecidableEq, Repr

namespace Selection

variable {α : Type}

/-- The search before the first line. -/
def start : Selection α := ⟨0, []⟩

/-- Take one line, with `after` lines of context for a match. -/
def step (isMatch : α → Bool) (after : Nat) (s : Selection α) (line : α) : Selection α :=
  if isMatch line then ⟨after, .line line :: s.shown⟩
  else
    match s.remaining with
    | 0 => s
    | 1 => ⟨0, .separator :: .line line :: s.shown⟩
    | remaining + 1 => ⟨remaining, .line line :: s.shown⟩

/-- Take some lines. -/
def run (isMatch : α → Bool) (after : Nat) (s : Selection α) (lines : List α) : Selection α :=
  lines.foldl (step isMatch after) s

@[simp]
theorem run_append (isMatch : α → Bool) (after : Nat) (s : Selection α) (as bs : List α) :
    s.run isMatch after (as ++ bs) = (s.run isMatch after as).run isMatch after bs :=
  List.foldl_append

end Selection

/-- What is shown of some lines, in order. -/
def select {α : Type} (isMatch : α → Bool) (after : Nat) (lines : List α) : List (Shown α) :=
  (Selection.start.run isMatch after lines).shown.reverse

/-- The separator as it is written. -/
def separatorLine : List Char := "------\n".toList

/-- The text of something that is shown; lines, but not separators, have a label in front. -/
def Shown.text (label : List Char) : Shown (List Char) → List Char
  | .line text => label ++ text ++ ['\n']
  | .separator => separatorLine

/-- The label of the lines of a named input. -/
def labelOf : Option String → List Char
  | none => []
  | some name => name.toList ++ [':']

/-- What a search writes for some lines. -/
def report (isMatch : List Char → Bool) (after : Nat) (name : Option String)
    (lines : List (List Char)) : Bytes :=
  (select isMatch after lines).flatMap fun shown => Utf8.encode (shown.text (labelOf name))

/-- What a search for a pattern writes for an input. -/
def output (pattern : Pattern) (after : Nat) (name : Option String) (input : Input) : Bytes :=
  report pattern.isMatch after name (input.lines.map Utf8.decode)

end CommandShell.Search
