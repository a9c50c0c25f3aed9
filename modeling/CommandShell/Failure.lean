/-!
# Failures of Input and Output

What can go wrong when a stream is read or written, a file opened or a program started. A failure
is either one that the operating system reports by number, or one with a text of its own. The one
distinction that matters to the shell is whether the reader of an output has gone away.
-/

namespace CommandShell

/-- The numbered failures of the operating system that files and programs run into. -/
inductive SystemFault where
  /-- Nothing has that name. -/
  | noEntry
  /-- The argument list is longer than a program can be given. -/
  | argumentsTooLong
  /-- The file is executable but is no program. -/
  | notAProgram
  /-- Access is refused. -/
  | accessDenied
  /-- Something has that name already. -/
  | fileExists
  /-- A part of the path that should be a directory is a file. -/
  | notDirectory
  /-- The path names a directory where a file is needed. -/
  | isDirectory
  /-- The reader of a pipe has gone away. -/
  | brokenPipe
  /-- A part of the path, or all of it, is too long. -/
  | nameTooLong
  /-- The directory is not empty. -/
  | notEmpty
  deriving DecidableEq, Repr

namespace SystemFault

/-- The number by which the operating system reports the fault. -/
def number : SystemFault → Nat
  | .noEntry => 2
  | .argumentsTooLong => 7
  | .notAProgram => 8
  | .accessDenied => 13
  | .fileExists => 17
  | .notDirectory => 20
  | .isDirectory => 21
  | .brokenPipe => 32
  | .nameTooLong => 36
  | .notEmpty => 39

/-- The wording of the fault, without its number. -/
def description : SystemFault → String
  | .noEntry => "No such file or directory"
  | .argumentsTooLong => "Argument list too long"
  | .notAProgram => "Exec format error"
  | .accessDenied => "Permission denied"
  | .fileExists => "File exists"
  | .notDirectory => "Not a directory"
  | .isDirectory => "Is a directory"
  | .brokenPipe => "Broken pipe"
  | .nameTooLong => "File name too long"
  | .notEmpty => "Directory not empty"

/-- Every fault. -/
def all : List SystemFault :=
  [.noEntry, .argumentsTooLong, .notAProgram, .accessDenied, .fileExists, .notDirectory,
    .isDirectory, .brokenPipe, .nameTooLong, .notEmpty]

/-- The fault with a given number. -/
def ofNumber? (n : Nat) : Option SystemFault :=
  all.find? (·.number == n)

end SystemFault

/-- Why reading, writing, opening or starting something failed. -/
inductive Failure where
  /-- A failure that the operating system reports. -/
  | system (fault : SystemFault)
  /-- The output accepts no more because its reader has gone away. -/
  | closed
  /-- Any other failure, with its own text. -/
  | other (text : String)
  deriving DecidableEq, Repr

namespace Failure

/-- The failure means that the reader of an output has gone away. -/
def isBrokenPipe : Failure → Bool
  | .system .brokenPipe => true
  | .closed => true
  | _ => false

/-- The failure, unless all it means is that the reader of an output has gone away. -/
def unlessClosed (failure : Option Failure) : Option Failure :=
  failure.filter (!·.isBrokenPipe)

/-- The full text of the failure, with the system's number where there is one. -/
def text : Failure → String
  | .system fault => s!"{fault.description} (os error {fault.number})"
  | .closed => "broken pipe"
  | .other text => text

/-- The start of a text up to the first occurrence of `mark`, or all of it without one. -/
def before (mark : List Char) : List Char → List Char
  | [] => []
  | c :: rest => if mark.isPrefixOf (c :: rest) then [] else c :: before mark rest

/-- The text without the system's number, as it is shown beside a file name. -/
def description (failure : Failure) : String :=
  String.ofList (before " (os error".toList failure.text.toList)

/-- A path that contains a NUL character names nothing. -/
def nulInPath : Failure := .other "file name contained an unexpected NUL byte"

/-- A program name or argument that contains a NUL character cannot be passed on. -/
def nulInArgument : Failure := .other "nul byte found in provided data"

end Failure

end CommandShell
