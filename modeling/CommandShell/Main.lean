import CommandShell.CommandLine
import CommandShell.Programs.Standard

/-!
# The Program

The program as it is started. Its process variables, its input and the files below its working
directory are gathered, the command line is carried out on them, and what has been written is
passed on: to the output, to the error stream, and to files that have changed.

The input is read to its end before the first line of it is run. When the user types it and
something else is to be run, it is not read at all.
-/

namespace CommandShell.Main

/-- How many directories deep files are gathered. -/
def gatheringDepth : Nat := 4

/-- A file with its contents; it may be run if it names an interpreter. -/
def fileOf (contents : ByteArray) : Entry :=
  .file contents.toList (Programs.interpreterOf? contents.toList).isSome

/-- Read a file, if that can be done. -/
def readFile? (path : String) : IO (Option Entry) := do
  match ← (IO.FS.readBinFile path).toBaseIO with
  | .ok contents => return some (fileOf contents)
  | .error _ => return none

/-- Gather the entries of the directory at a place. -/
def gather : (depth : Nat) → Place → Array IO.FS.DirEntry → Files → IO Files
  | 0, _, _, files => return files
  | depth + 1, place, entries, files =>
    entries.foldlM (fun files entry => do
      let here := place ++ [entry.fileName]
      if ← entry.path.isDir then
        match ← entry.path.readDir.toBaseIO with
        | .ok below => gather depth here below (files.put here .directory)
        | .error _ => return files.put here .directory
      else
        match ← readFile? entry.path.toString with
        | some file => return files.put here file
        | none => return files) files

/-- Gather a file that an argument names by a path from the root. -/
def gatherNamed (files : Files) (arg : String) : IO Files := do
  let place := (Files.parts arg).filter (· ≠ "")
  if arg.startsWith "/" && (files.entryAt? place).isNone then
    match ← readFile? arg with
    | some file => return (files.makeDirectories place.dropLast).put place file
    | none => return files
  else return files

/-- The files that the program may need. -/
def gatherFiles (args : List String) : IO Files := do
  let directory ← IO.currentDir
  let place := (Files.parts directory.toString).filter (· ≠ "")
  let files ← gather gatheringDepth place (← directory.readDir) (.bare place)
  args.foldlM gatherNamed files

/-- A variable by its name and value, divided at the first `=` behind the first byte. -/
def variableOf? : Bytes → Option (Bytes × Bytes)
  | [] => none
  | first :: rest =>
    let name := rest.takeWhile (· != 0x3D)
    if name.length = rest.length then none
    else some (first :: name, rest.drop (name.length + 1))

/-- The process variables, from where the system shows them. -/
def gatherVariables : IO (List (Bytes × Bytes)) := do
  match ← (IO.FS.readBinFile "/proc/self/environ").toBaseIO with
  | .ok contents => return (contents.toList.splitOn 0).filterMap variableOf?
  | .error _ => return []

/-- The input is needed: it holds the lines to be run, or it is there for what they run. -/
def needsInput (interactive : Bool) (request : Except Options.Stop (Option CommandLine.Request)) :
    Bool :=
  match request with
  | .ok (some request) => request.source = .input || !interactive
  | _ => false

/-- Write the files that are not as they were. -/
def writeChanges (before after : Files) : IO Unit :=
  after.entries.forM fun (place, entry) => do
    match entry with
    | .file data _ =>
      unless before.entryAt? place = some entry do
        IO.FS.writeBinFile (Files.pathOf place) data.toByteArray
    | .locked _ | .torn .. | .directory => pure ()

end CommandShell.Main

open CommandShell in
/-- Carry out the command line, and end with the exit code. -/
def main (args : List String) : IO UInt32 := do
  let stdin ← IO.getStdin
  let interactive ← stdin.isTty
  -- Whether the terminal shows colours is not asked: the error stream is written at the end.
  let process := CommandLine.Process.ofVariables (← Main.gatherVariables) false
  let files ← Main.gatherFiles args
  let request := CommandLine.read process.lookup args
  let data ← if Main.needsInput interactive request then stdin.readBinToEnd else pure .empty
  let context : Context :=
    { files, programs := Programs.system process.bindings, input := .ofBytes data.toList,
      out := .unlimited, err := .unlimited, threshold := none }
  let (code, after) := (CommandLine.run args process interactive).run context
  (← IO.getStdout).write after.out.contents.toByteArray
  (← IO.getStderr).write after.err.contents.toByteArray
  Main.writeChanges files after.files
  return UInt32.ofNat code.toNat
