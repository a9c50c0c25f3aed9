import CommandShell.Programs.Records.Scalar
import CommandShell.Programs.Regular.Syntax

/-!
# The Syntax of Programs on Records

A program is a list of rules and functions. A rule has a pattern, which selects records, and an
action, which is carried out on them.
-/

namespace CommandShell.Programs.Records

mutual

/-- An expression. -/
inductive Term where
  /-- A number. -/
  | number (n : Float)
  /-- A text. -/
  | text (bytes : Bytes)
  /-- A regular expression; by itself it tells whether the record matches it. -/
  | regular (regular : Regular)
  /-- An expression in parentheses. -/
  | enclosed (value : Term)
  /-- Something that has a value and can get another one. -/
  | place (target : Target)
  /-- Something gets a value, which an operator may make of its old one. -/
  | assign (target : Target) (operator : Option String) (value : Term)
  /-- Something becomes greater by a number; the value is the new one if `isBefore` is set. -/
  | step (isBefore : Bool) (amount : Float) (target : Target)
  /-- An operator with one operand. -/
  | unary (operator : String) (operand : Term)
  /-- An operator with two operands. -/
  | binary (operator : String) (left right : Term)
  /-- Two texts, one after the other. -/
  | join (left right : Term)
  /-- A text matches an expression, or does not if `negated` is set. -/
  | fits (negated : Bool) (subject expression : Term)
  /-- An array has an element. -/
  | member (array : String) (keys : List Term)
  /-- One of two values, as a third one tells. -/
  | choose (test left right : Term)
  /-- A function that is always there. -/
  | builtin (name : String) (arguments : List Term)
  /-- A function of the program. -/
  | call (name : String) (arguments : List Term)
  /-- Read a record, or a line of a file, or of what a command writes. -/
  | readLine (target : Option Target) (source : Option (Bool × Term))

/-- Something that can get a value. -/
inductive Target where
  /-- A variable. -/
  | variable (name : String)
  /-- A field of the record. -/
  | field (position : Term)
  /-- An element of an array. -/
  | element (array : String) (keys : List Term)

end

/-- Where output goes. -/
inductive Outlet where
  /-- To the output of the program. -/
  | output
  /-- To a file. -/
  | file (path : Term)
  /-- To the end of a file. -/
  | append (path : Term)
  /-- To a command. -/
  | command (text : Term)

/-- A statement. -/
inductive Statement where
  /-- Nothing. -/
  | nothing
  /-- Evaluate an expression. -/
  | evaluate (value : Term)
  /-- Print values, or the record. -/
  | print (values : List Term) (outlet : Outlet)
  /-- Print by a format. -/
  | printf (values : List Term) (outlet : Outlet)
  /-- Carry out one of two statements, as an expression tells. -/
  | branch (test : Term) (body otherwise : Statement)
  /-- Carry out a statement and a step as long as an expression is true; with `isLate` it is looked
  at after the first time. -/
  | loop (isLate : Bool) (test : Term) (step body : Statement)
  /-- Carry out a statement for each key of an array. -/
  | each (name array : String) (body : Statement)
  /-- Carry out several statements. -/
  | block (body : List Statement)
  /-- Take away an element, or all of them. -/
  | delete (array : String) (keys : List Term)
  /-- Go on with the next record. -/
  | next
  /-- End. -/
  | exit (code : Option Term)
  /-- Leave a function. -/
  | leave (value : Option Term)
  /-- Leave a loop. -/
  | leaveLoop
  /-- Go on with the next round of a loop. -/
  | continueLoop

/-- What selects records. -/
inductive Selector where
  /-- Before the first record. -/
  | atBegin
  /-- After the last record. -/
  | atEnd
  /-- All records. -/
  | all
  /-- The records for which an expression is true. -/
  | when (test : Term)
  /-- The records from one for which an expression is true to one for which another one is. -/
  | between (first last : Term)

/-- A pattern with what is done on the records that it selects. -/
structure Rule where
  /-- The pattern. -/
  selector : Selector
  /-- The action; without one the record is printed. -/
  action : Option Statement

/-- A function. -/
structure Function where
  /-- Its name. -/
  name : String
  /-- The names of its arguments and of its own variables. -/
  parameters : List String
  /-- What it does. -/
  body : Statement

/-- A program on records. -/
structure Source where
  /-- The rules. -/
  rules : List Rule
  /-- The functions. -/
  functions : List Function

end CommandShell.Programs.Records
