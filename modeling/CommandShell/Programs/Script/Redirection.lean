import CommandShell.Programs.Script.Expansion

/-!
# Redirections

What redirections do with the descriptors of an interpreter: they let them stand for files, for
texts of the script, for each other, or for nothing. The files that stand for the usual descriptors
are not opened: the descriptor becomes the same as the one that the file stands for.
-/

namespace CommandShell.Programs.Script

namespace Redirection

/-- The descriptor that a file stands for. -/
def descriptorOf? (path : String) : Option Nat :=
  match path with
  | "/dev/stdin" => some 0
  | "/dev/stdout" => some 1
  | "/dev/stderr" => some 2
  | _ => if path.startsWith "/dev/fd/" then (path.drop 8).toNat? else none

/-- Let a descriptor be the same as another one; the result tells whether that is possible. -/
def join (descriptor other : Nat) : Run Bool := do
  match (← get).descriptors.lookup other with
  | some target => do
    Run.connect descriptor (some target)
    return true
  | none => do
    Run.complain s!"{other}: Bad file descriptor"
    return false

/-- What is complained about a file: a path that leads nowhere has its own wording. -/
def describe (missing : String) : Failure → String
  | .system .noEntry | .system .notDirectory => missing
  | failure => failure.description

/-- How it is said that a file to be read is missing. -/
def missingFile : String := "No such file"

/-- Let a descriptor be read from a file. -/
def openSource (descriptor : Nat) (path : String) : Run Bool := do
  match descriptorOf? path, (← get).files.openInput path with
  | some other, _ => join descriptor other
  | none, .ok input => do
    Run.connect descriptor (some (.source (← Run.newSource input.data true)))
    return true
  | none, .error failure => do
    let reason := describe missingFile failure
    Run.complain s!"cannot open {path}: {reason}"
    return false

/-- Let a descriptor be written to a file, at its end if `atEnd` is set; `isForced` tells that the
file may be written over. -/
def openFile (descriptor : Nat) (atEnd isForced : Bool) (path : String) : Run Bool := do
  let state ← get
  let refuse (reason : String) : Run Bool := do
    Run.complain s!"cannot create {path}: {reason}"
    return false
  let settle (place : Place) (entry : Entry) : Run Bool := do
    set { state with files := state.files.put place entry }
    Run.connect descriptor (some (.file place))
    return true
  match descriptorOf? path, state.files.locate path with
  | some other, _ => join descriptor other
  | none, .error failure => refuse (describe "Directory nonexistent" failure)
  | none, .ok place =>
    match state.files.entryAt? place with
    | some .directory => refuse (SystemFault.description .isDirectory)
    | some (.locked fault) => refuse (describe "Directory nonexistent" fault)
    | some (.torn data _) => settle place (.file (if atEnd then data else []) false)
    | none => settle place (.file [] false)
    | some (.file data executable) =>
      if !atEnd && !isForced && state.has 'C' && place != ["dev", "null"] then refuse "File exists"
      else settle place (.file (if atEnd then data else []) executable)

/-- Carry out a redirection; the result tells whether that is possible. -/
def carryOut (run : List Command → Run Unit) : Redirection → Run Bool
  | .mk descriptor direction target => do
    let text ← textOf run target
    match direction with
    | .read => openSource descriptor text
    | .write => openFile descriptor false false text
    | .overwrite => openFile descriptor false true text
    | .append => openFile descriptor true false text
    | .document => do
      Run.connect descriptor (some (.source (← Run.newSource (utf8 text) false)))
      return true
    | .duplicate =>
      if text = "-" then do
        Run.connect descriptor none
        return true
      else
        match text.toNat? with
        | some other => join descriptor other
        | none => Run.fail "Syntax error: Bad fd number"

/-- Carry out redirections up to the first that is not possible; the result tells whether all
are. -/
def carryOutAll (run : List Command → Run Unit) : List Redirection → Run Bool
  | [] => return true
  | redirection :: rest => do
    if ← carryOut run redirection then carryOutAll run rest else return false

end Redirection

end CommandShell.Programs.Script
