import CommandShell.Programs.Script.Start
import CommandShell.Programs.Table

/-!
# Finding and Running Programs

A program is called by a path, or by a name that is looked for in the directories of the standard
programs. A file can be called if it may be run and names an interpreter in its first line that
itself can be called.

The shell takes whatever programs it is given (`Programs`). These are the ones that it is started
with: they belong to its surroundings, as files and streams do, and nothing that is proved of the
shell is about them. How much a program can write that nobody reads (`pipeCapacity`) is settled
here, too, and not by the shell.
-/

namespace CommandShell.Programs

/-- The process variable that names the directories in which programs are looked for. -/
def searchVariable : String := "PATH"

/-- The directories in which programs are looked for when no process variable names them. -/
def usualSearchPath : String := "/usr/local/sbin:/usr/local/bin:/usr/sbin:/usr/bin:/sbin:/bin"

/-- The names of the system's own command interpreter. -/
def interpreterNames : List String := ["sh", "dash", "bash"]

/-- The longest argument that a program can be given, in bytes. -/
def argumentLimit : Nat := 131071

/-- The most that all arguments of a program can take together, in bytes. -/
def argumentsLimit : Nat := Nat.pow 2 21

/-- How often one program may call another one. -/
def callDepth : Nat := 24

/-- A program that has been found. -/
inductive Image where
  /-- A standard program. -/
  | utility (utility : Utility)
  /-- A standard program that calls other ones. -/
  | launcher (launcher : Launch → Utility)
  /-- The command interpreter. -/
  | interpreter
  /-- The program that tells where programs are. -/
  | locator
  /-- A script, with the path that it is called by. -/
  | script (path : String) (data : Bytes)

/-- The standard program of a name. -/
def standard? (name : String) : Option Image :=
  if interpreterNames.contains name then some .interpreter
  else if name = "which" then some .locator
  else
    match launchers.lookup name, utilities.lookup name with
    | some launcher, _ => some (.launcher launcher)
    | none, some utility => some (.utility utility)
    | none, none => none

/-- The standard program at a place. -/
def standardAt? (place : Place) : Option Image :=
  if [["usr", "bin"], ["bin"]].contains place.dropLast then place.getLast?.bind standard?
  else none

/-- The program that a path leads to. -/
def imageAt (files : Files) (path : String) : Except Failure Image := do
  let place ← files.locate path
  match standardAt? place, files.entryAt? place with
  | some image, _ => return image
  | none, none => .error (.system .noEntry)
  | none, some .directory => .error (.system .accessDenied)
  | none, some (.file _ false) | none, some (.locked _) | none, some (.torn ..) =>
    .error (.system .accessDenied)
  | none, some (.file data true) => return .script path data

/-- The directories in which programs are looked for. -/
def searchDirectories (bindings : List (String × String)) : List String :=
  ((bindings.lookup searchVariable).getD usualSearchPath).splitOn ":"

/-- The path of a name in a directory; the empty directory is the working directory. -/
def pathIn (directory name : String) : String :=
  if directory.isEmpty then name else directory ++ "/" ++ name

/-- Look for a program in some directories: its path and what it is. The search goes on where there
is nothing or access is refused; `refused` tells that access has been refused before. -/
def searchImage (files : Files) (name : String) :
    (refused : Bool) → List String → Except Failure (String × Image)
  | refused, [] => .error (.system (if refused then .accessDenied else .noEntry))
  | refused, directory :: rest =>
    match imageAt files (pathIn directory name) with
    | .ok image => .ok (pathIn directory name, image)
    | .error (.system .accessDenied) => searchImage files name true rest
    | .error (.system .noEntry) | .error (.system .notDirectory) =>
      searchImage files name refused rest
    | .error failure => .error failure

/-- The program that a path or a name calls, with its path. -/
def findImage (bindings : List (String × String)) (files : Files) (name : String) :
    Except Failure (String × Image) :=
  if name.isEmpty then .error (.system .noEntry)
  else if name.contains '/' then (imageAt files name).map (name, ·)
  else searchImage files name false (searchDirectories bindings)

/-- The path of a program that is called by name, if there is one. -/
def findPath (bindings : List (String × String)) (files : Files) (name : String) :
    Option String :=
  (findImage bindings files name).toOption.map (·.1)

/-- Print the paths of programs that are called by names, the first one of each name or all. -/
def which : Utility := fun call =>
  call.parsed (flagsOf "as" "" []) 2 fun arguments =>
    let pathsOf (name : String) : List String :=
      let directories := if name.contains '/' then [""] else searchDirectories call.bindings
      let found := directories.filterMap fun directory =>
        (searchImage call.files name false [directory]).toOption.map (·.1)
      if arguments.has 'a' then found else found.take 1
    let found := arguments.operands.map pathsOf
    let code := if found.isEmpty || found.any (·.isEmpty) then 1 else 0
    let lines := if arguments.has 's' then [] else found.flatten
    call.ended code (utf8 (String.join (lines.map (· ++ "\n"))))

/-- The longest part of a script that is looked at for the name of its interpreter, in bytes. -/
def firstLineLimit : Nat := 255

/-- The interpreter that the first line of a script names, with its argument if it has one. -/
def interpreterOf? (data : Bytes) : Option (String × List String) :=
  match data.take firstLineLimit with
  | 0x23 :: 0x21 :: rest =>
    let line := (rest.takeWhile fun b => b != Input.newline && b != 0).dropWhile isBlankIn
    let name := line.takeWhile (!isBlankIn ·)
    let argument := (line.drop name.length).dropWhile isBlankIn
    let argument := (argument.reverse.dropWhile isBlankIn).reverse
    if name.isEmpty then none
    else some (lossyText name, if argument.isEmpty then [] else [lossyText argument])
  | _ => none

/-- The texts that a program is given take too much room. -/
def isTooLong (args : List String) : Bool :=
  args.any (·.utf8ByteSize > argumentLimit) ||
    args.foldl (fun total arg => total + arg.utf8ByteSize + 1) 0 > argumentsLimit

/-- Call a program; `fuel` bounds how often one program calls another one. -/
def launch : (fuel : Nat) → Launch
  | 0, _ => .error (.system .notAProgram)
  | fuel + 1, call => do
    let (_, image) ← findImage call.bindings call.files call.name
    if isTooLong (call.name :: call.args) then .error (.system .argumentsTooLong)
    match image with
    | .utility utility => return utility call
    | .launcher launcher => return launcher (launch fuel) call
    | .locator => return which call
    | .interpreter => return Script.interpret ⟨launch fuel, findPath⟩ call
    | .script path data =>
      match interpreterOf? data with
      | none => .error (.system .notAProgram)
      | some (name, argument) =>
        let name := if name.contains '/' then name else "./" ++ name
        launch fuel { call with name, args := argument ++ path :: call.args }

/-- How many bytes a program can write while nobody reads. -/
def pipeCapacity : Nat := 65536

/-- How many bytes of an output are passed on at a time. -/
def chunkSize : Nat := 8192

/-- How a program ends whose reader went away after `taken` bytes. The reader has taken the chunk
with the next byte too; if there is more behind it than can wait unread, that ends the program. -/
def statusWhenClosed (output : Bytes) (status : ExitStatus) (taken : Nat) : ExitStatus :=
  if output.length > (taken / chunkSize + 1) * chunkSize + pipeCapacity then .pipeClosed
  else status

/-- The process variables of a system in which nothing else is told. -/
def usualVariables : List (String × String) :=
  [(searchVariable, usualSearchPath), ("HOME", "/root"), ("LC_ALL", "C")]

/-- Process variables together with the usual ones. -/
def withUsual (bindings : List (String × String)) : List (String × String) :=
  usualVariables.filter (fun (name, _) => (bindings.lookup name).isNone) ++ bindings

/-- The standard programs of a system, with process variables. -/
def system (bindings : List (String × String)) : Programs := fun invocation => do
  if (invocation.name :: invocation.args).any (·.contains '\x00') then .error .nulInArgument
  else
    let product ← launch callDepth
      { name := invocation.name, args := invocation.args, input := invocation.input
        inputSize := none, bindings := withUsual bindings, files := invocation.files
        joined := false }
    return {
      output := product.output, status := product.status, files := product.files
      statusClosed := statusWhenClosed product.output product.status }

end CommandShell.Programs
