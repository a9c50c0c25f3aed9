import CommandShell.Stream.Input

/-!
# Files

The files and directories that commands can name. A path is taken apart at its slashes and followed
from the root or from the working directory, one directory after the other; what can go wrong on
the way is reported as the operating system does. A directory can be opened but not read. A file
may be locked, so that it cannot even be opened, or torn, so that reading it breaks off.
-/

namespace CommandShell

/-- What can go wrong with a file: anything but that the reader of an output has gone away. -/
abbrev FileFault := { failure : Failure // failure.isBrokenPipe = false }

/-- What a path can lead to. -/
inductive Entry where
  /-- A file with its contents; it may be one that can be run. -/
  | file (data : Bytes) (executable : Bool)
  /-- A file that cannot be opened. -/
  | locked (fault : FileFault)
  /-- A file that can be read only up to some point, where reading fails. -/
  | torn (data : Bytes) (fault : FileFault)
  /-- A directory. -/
  | directory
  deriving DecidableEq, Repr

/-- The names of the directories from the root on, and of the entry itself. -/
abbrev Place := List String

/-- Files and directories, and the directory from which paths are followed. -/
structure Files where
  /-- The place of the working directory. -/
  workingDirectory : Place
  /-- The entries by their places; the root is there in any case. -/
  entries : List (Place × Entry)
  deriving DecidableEq, Repr

namespace Files

/-- The parts of a path between its slashes. -/
def parts (path : String) : List String :=
  (path.toList.splitOn '/').map String.ofList

/-- The longest name that an entry can have, in bytes. -/
def nameLimit : Nat := 255

/-- The longest path that can be followed, in bytes. -/
def pathLimit : Nat := 4095

/-- What is at a place. -/
def entryAt? (files : Files) (place : Place) : Option Entry :=
  if place.isEmpty then some .directory else files.entries.lookup place

/-- Follow the parts of a path from a place on. The last part may lead to nothing. -/
def follow (files : Files) : Place → List String → Except Failure Place
  | place, [] => .ok place
  | place, part :: rest =>
    match files.entryAt? place with
    | none => .error (.system .noEntry)
    | some (.file ..) | some (.locked _) | some (.torn ..) => .error (.system .notDirectory)
    | some .directory =>
      if part = "" ∨ part = "." then files.follow place rest
      else if part = ".." then files.follow place.dropLast rest
      else if part.utf8ByteSize > nameLimit then .error (.system .nameTooLong)
      else files.follow (place ++ [part]) rest

/-- The place that a path leads to. -/
def locate (files : Files) (path : String) : Except Failure Place :=
  if '\x00' ∈ path.toList then .error .nulInPath
  else if path.isEmpty then .error (.system .noEntry)
  else if path.utf8ByteSize > pathLimit then .error (.system .nameTooLong)
  else
    let start := if path.toList.head? = some '/' then [] else files.workingDirectory
    files.follow start (parts path)

/-- What a path leads to. -/
def find (files : Files) (path : String) : Except Failure Entry := do
  match files.entryAt? (← files.locate path) with
  | some entry => return entry
  | none => .error (.system .noEntry)

/-- Open an entry for reading: what can be read from it. -/
def Entry.openInput : Entry → Except Failure Input
  | .file data _ => .ok (.ofBytes data)
  | .locked fault => .error fault
  | .torn data fault => .ok ⟨data, some fault⟩
  | .directory => .ok (.failing (.system .isDirectory))

/-- Open what a path leads to for reading. -/
def openInput (files : Files) (path : String) : Except Failure Input :=
  (files.find path).bind Entry.openInput

/-- The place of the working directory, if it has not been taken away. -/
def currentDirectory (files : Files) : Except Failure Place :=
  match files.entryAt? files.workingDirectory with
  | some .directory => .ok files.workingDirectory
  | _ => .error (.system .noEntry)

/-- Put an entry at a place. -/
def put (files : Files) (place : Place) (entry : Entry) : Files :=
  { files with entries := (place, entry) :: files.entries.filter (·.1 != place) }

/-- Make a place and all places above it directories where there is nothing yet. -/
def makeDirectories (files : Files) (place : Place) : Files :=
  ((List.range place.length).map fun n => place.take (n + 1)).foldl (fun files upper =>
    if (files.entryAt? upper).isSome then files else files.put upper .directory) files

/-- Put an entry at a path relative to the working directory, with the directories above it. -/
def add (files : Files) (path : String) (entry : Entry) : Files :=
  let place := files.workingDirectory ++ (parts path).filter (· ≠ "")
  (files.makeDirectories place.dropLast).put place entry

/-- Replace the contents of the file that a path leads to, or make a new one. -/
def write (files : Files) (path : String) (data : Bytes) : Except Failure Files := do
  let place ← files.locate path
  match files.entryAt? place with
  | some .directory => .error (.system .isDirectory)
  | some (.locked fault) => .error fault
  | some (.file _ executable) => return files.put place (.file data executable)
  | some (.torn ..) => return files.put place (.file data false)
  | none =>
    match files.entryAt? place.dropLast with
    | some .directory => return files.put place (.file data false)
    | _ => .error (.system .noEntry)

/-- Take away what is at a place and below it. -/
def remove (files : Files) (place : Place) : Files :=
  { files with entries := files.entries.filter fun (other, _) => !place.isPrefixOf other }

/-- What is at a place and below it, with the rest of each place. -/
def below (files : Files) (place : Place) : List (Place × Entry) :=
  files.entries.filterMap fun (other, entry) =>
    if place.isPrefixOf other then some (other.drop place.length, entry) else none

/-- Put entries below a place. -/
def putBelow (files : Files) (place : Place) (entries : List (Place × Entry)) : Files :=
  { files with entries := entries.map (fun (rest, entry) => (place ++ rest, entry)) ++
      files.entries.filter fun (other, _) => !entries.any fun (rest, _) => place ++ rest = other }

/-- The names of the entries of a directory. -/
def names (files : Files) (place : Place) : List String :=
  files.entries.filterMap fun (other, _) =>
    if other.dropLast = place then other.getLast? else none

/-- The path of a place. -/
def pathOf (place : Place) : String :=
  "/" ++ "/".intercalate place

/-- The directories that are always there. -/
def usualDirectories : List Place :=
  [["bin"], ["boot"], ["dev"], ["etc"], ["home"], ["lib"], ["lib64"], ["media"], ["mnt"], ["opt"],
    ["proc"], ["root"], ["run"], ["sbin"], ["srv"], ["sys"], ["tmp"], ["usr", "bin"],
    ["usr", "include"], ["usr", "lib"], ["usr", "local", "bin"], ["usr", "local", "lib"],
    ["usr", "sbin"], ["usr", "share"], ["usr", "src"], ["var", "cache"], ["var", "lib"],
    ["var", "log"], ["var", "tmp"]]

/-- The names of programs that are always there. -/
def usualPrograms : List String :=
  ["cat", "echo", "env", "false", "grep", "ls", "sh", "true"]

/-- A file system that holds nothing but its working directory, and directories and programs that
are always there. -/
def bare (workingDirectory : Place) : Files :=
  let programs := usualPrograms.flatMap fun name =>
    [["bin", name], ["usr", "bin", name]].map fun place => (place, Entry.file [] true)
  let files : Files := ⟨workingDirectory, (["dev", "null"], .file [] false) :: programs⟩
  (workingDirectory :: usualDirectories).foldl makeDirectories files

end Files

end CommandShell
