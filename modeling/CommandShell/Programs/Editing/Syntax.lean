import CommandShell.Programs.Regular.Syntax

/-!
# Editing Scripts

The scripts of the stream editor `sed`: a list of commands, each with addresses that tell on which
lines it is carried out. Commands in braces follow the brace in the list, which knows where they
end, so that a place in a script is always a position in the list.
-/

namespace CommandShell.Programs.Editing

/-- An expression with its flags; without a text it is the one that was used last. -/
structure Pattern where
  /-- The expression. -/
  regular : Option Regular
  /-- The case of letters does not matter. -/
  folds : Bool
  /-- Lines within the text have beginnings and ends. -/
  multiLine : Bool
  deriving DecidableEq, Repr

/-- A line or lines that a command is carried out on. -/
inductive Address where
  /-- The line with a number. -/
  | line (number : Nat)
  /-- The last line. -/
  | last
  /-- Lines that match. -/
  | pattern (pattern : Pattern)
  /-- The line with a number, and each of the lines so many after it. -/
  | step (first size : Nat)
  deriving DecidableEq, Repr

/-- Where a range of lines ends. -/
inductive RangeEnd where
  /-- At an address. -/
  | address (address : Address)
  /-- So many lines after its beginning. -/
  | after (count : Nat)
  /-- At a line whose number is a multiple. -/
  | multiple (size : Nat)
  deriving DecidableEq, Repr

/-- What a command is carried out on. -/
structure Selection where
  /-- The first address. -/
  first : Option Address
  /-- The end of the range that begins there, if it is one. -/
  last : Option RangeEnd
  /-- The command is carried out on the other lines. -/
  negated : Bool
  deriving DecidableEq, Repr

/-- How the case of letters is changed. -/
inductive CaseChange where
  /-- All letters become upper case. -/
  | upper
  /-- All letters become lower case. -/
  | lower
  /-- The next letter becomes upper case. -/
  | nextUpper
  /-- The next letter becomes lower case. -/
  | nextLower
  /-- Letters are not changed any more. -/
  | stop
  deriving DecidableEq, Repr

/-- A piece of a replacement. -/
inductive Piece where
  /-- A text. -/
  | text (bytes : Bytes)
  /-- What a group has matched; the group 0 is the whole match. -/
  | group (number : Nat)
  /-- From here on case is changed. -/
  | case (change : CaseChange)
  deriving DecidableEq, Repr

/-- How matches are replaced. -/
structure Substitution where
  /-- What is replaced. -/
  pattern : Pattern
  /-- What it is replaced by. -/
  replacement : List Piece
  /-- The number of the first match that is replaced. -/
  which : Nat
  /-- All matches after it are replaced too. -/
  all : Bool
  /-- The line is printed if something has been replaced. -/
  prints : Bool
  /-- The file to which the line is written if something has been replaced. -/
  file : Option String
  deriving DecidableEq, Repr

/-- What a command does. -/
inductive Action where
  /-- Nothing. -/
  | nothing
  /-- Commands up to a position are carried out. -/
  | block (stop : Nat)
  /-- Matches are replaced. -/
  | substitute (substitution : Substitution)
  /-- Bytes are replaced by others. -/
  | translate (table : List (UInt8 × UInt8))
  /-- A text is printed after the line. -/
  | append (text : Bytes)
  /-- A text is printed before the line. -/
  | insert (text : Bytes)
  /-- A text is printed instead of the line. -/
  | change (text : Bytes)
  /-- The line is given up. -/
  | delete
  /-- The first of several lines is given up. -/
  | deleteFirst
  /-- The line is printed. -/
  | print
  /-- The first of several lines is printed. -/
  | printFirst
  /-- The line is printed with signs for what cannot be seen, broken at a width. -/
  | list (width : Nat)
  /-- The number of the line is printed. -/
  | number
  /-- The next line is read. -/
  | next
  /-- The next line is read and put after the line. -/
  | join
  /-- The line is held. -/
  | hold
  /-- The line is put after what is held. -/
  | holdMore
  /-- What is held becomes the line. -/
  | take
  /-- What is held is put after the line. -/
  | takeMore
  /-- The line and what is held are exchanged. -/
  | exchange
  /-- The line becomes empty. -/
  | clear
  /-- The script goes on at a label, or at its end. -/
  | branch (label : String)
  /-- The script goes on at a label if something has been replaced, or else if `otherwise` is
  set. -/
  | branchIf (otherwise : Bool) (label : String)
  /-- The editor ends; `silent` keeps it from printing the line. -/
  | quit (silent : Bool) (code : Nat)
  /-- What is in a file is printed after the line. -/
  | read (path : String)
  /-- The line is written to a file, or only the first of several lines. -/
  | write (firstOnly : Bool) (path : String)
  /-- A place that a branch can lead to. -/
  | label (name : String)
  deriving DecidableEq, Repr

/-- A command. -/
structure Command where
  /-- What it is carried out on. -/
  selection : Selection
  /-- What it does. -/
  action : Action
  deriving DecidableEq, Repr

end CommandShell.Programs.Editing
