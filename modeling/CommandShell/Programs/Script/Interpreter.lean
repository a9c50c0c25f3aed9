import CommandShell.Programs.Call
import CommandShell.Programs.Script.Syntax
import CommandShell.Text.Identifier

/-!
# Interpreters of Scripts

What an interpreter knows while it runs a script: its variables, functions and arguments, what its
descriptors stand for, and the files. What commands write is gathered in sinks, and what they read
comes from sources; several descriptors may stand for the same one. A subshell works on a copy of
the interpreter, but on the same sinks, sources and files.
-/

namespace CommandShell.Programs.Script

/-- What a descriptor stands for. -/
inductive Descriptor where
  /-- A source that can be read. -/
  | source (number : Nat)
  /-- A sink that can be written to. -/
  | sink (number : Nat)
  /-- A file that is written to at its end. -/
  | file (place : Place)
  deriving DecidableEq, Repr

/-- What an interpreter knows while it runs a script. -/
structure Interpreter where
  /-- The name of the script. -/
  name : String
  /-- Its arguments. -/
  arguments : List String
  /-- The variables. -/
  bindings : List (String × String)
  /-- The names of the variables that programs get to know. -/
  exported : List String
  /-- The names of the variables that cannot be changed. -/
  constants : List String
  /-- The functions. -/
  functions : List (String × Command)
  /-- The values that variables had before they became local, for each function being run. -/
  locals : List (List (String × Option String))
  /-- The code of the last command. -/
  lastCode : UInt8
  /-- The code of the last commands whose output was asked for in the command being run. -/
  captured : Option UInt8
  /-- The letters of the options that are set. -/
  options : List Char
  /-- The position of the argument that is looked at next for options of the script. -/
  optionIndex : Nat
  /-- The letters of an argument that have not yet been taken as options of the script. -/
  optionRest : List Char
  /-- How many loops are being run. -/
  loops : Nat
  /-- The number of the line being run. -/
  line : Nat
  /-- The permissions that new files do not get. -/
  mask : Nat
  /-- The commands that have been run in the background, last first: the number of the process and
  the code that it ended with. -/
  jobs : List (Nat × UInt8)
  /-- The other names of commands. -/
  aliases : List (String × String)
  /-- The names of the programs that have been found so far. -/
  found : List String
  /-- What is done on signals and at the end, by the names of these conditions. -/
  traps : List (String × String)
  /-- What the descriptors stand for. -/
  descriptors : List (Nat × Descriptor)
  /-- What is left in the sources. -/
  sources : List (Nat × Bytes)
  /-- The sizes of the files that sources were opened from. -/
  fileSizes : List (Nat × Nat)
  /-- What has been written to the sinks, in pieces, last first. -/
  sinks : List (Nat × List Bytes)
  /-- A number that no source or sink has. -/
  nextStream : Nat
  /-- The files. -/
  files : Files

/-- Why commands are not run to their end. -/
inductive Interrupt where
  /-- The interpreter ends with a code. -/
  | ended (code : UInt8)
  /-- The interpreter ends because of a mistake. -/
  | failed
  /-- The interpreter is ended by a signal. -/
  | killed (signal : Fin 128)
  /-- Some loops are left. -/
  | broken (levels : Nat)
  /-- Loops are left but for the last, which goes on with its next round. -/
  | continued (levels : Nat)
  /-- The function being run is left. -/
  | returned
  deriving DecidableEq, Repr

/-- The end of an interpreter by a signal that is given by its number. -/
def Interrupt.ofSignal (number : Nat) : Interrupt :=
  .killed ⟨number % 128, Nat.mod_lt number (Nat.succ_pos 127)⟩

/-- A computation of an interpreter. -/
abbrev Run := ExceptT Interrupt (StateM Interpreter)

namespace Interpreter

/-- The sink for output. -/
def outputSink : Nat := 0

/-- The sink for complaints. -/
def complaintSink : Nat := 1

/-- The source of input. -/
def inputSource : Nat := 2

/-- The variables that have values of their own at the beginning of a script. -/
def firstBindings : List (String × String) :=
  [("IFS", " \t\n"), ("OPTIND", "1"), ("PPID", "4320")]

/-- The variables that have values at the beginning of a script if none are given. -/
def usualBindings : List (String × String) :=
  [("PS1", "# "), ("PS2", "> "), ("PS4", "+ ")]

/-- An interpreter at the beginning of a script. -/
def start (name : String) (arguments : List String) (call : Call) : Interpreter where
  name := name
  arguments := arguments
  bindings :=
    let own := ("PWD", Files.pathOf call.files.workingDirectory) :: firstBindings
    let given := call.bindings.filter fun (name, _) => (own.lookup name).isNone
    own ++ given ++ usualBindings.filter fun (name, _) => (given.lookup name).isNone
  exported := "PWD" :: call.bindings.map (·.1)
  constants := []
  functions := []
  locals := []
  lastCode := 0
  captured := none
  options := []
  optionIndex := 1
  optionRest := []
  loops := 0
  line := 1
  mask := 18
  jobs := []
  aliases := []
  found := []
  traps := []
  descriptors :=
    [(0, .source inputSource), (1, .sink outputSink),
      (2, .sink (if call.joined then outputSink else complaintSink))]
  sources := [(inputSource, call.input)]
  fileSizes := (call.inputSize.map (inputSource, ·)).toList
  sinks := [(outputSink, []), (complaintSink, [])]
  nextStream := 3
  files := call.files

/-- What has been written to a sink. -/
def written (state : Interpreter) (sink : Nat) : Bytes :=
  ((state.sinks.lookup sink).getD []).reverse.flatten

/-- The option is set. -/
def has (state : Interpreter) (option : Char) : Bool :=
  state.options.contains option

/-- The value of a variable. -/
def binding? (state : Interpreter) (name : String) : Option String :=
  state.bindings.lookup name

/-- The characters at which values are split. -/
def separators (state : Interpreter) : List Char :=
  match state.binding? "IFS" with
  | some text => text.toList
  | none => [' ', '\t', '\n']

/-- Give a variable a value, or take it away. -/
def put (state : Interpreter) (name : String) (value : Option String) : Interpreter :=
  let others := state.bindings.filter (·.1 != name)
  match value with
  | some text =>
    { state with
      bindings := (name, text) :: others
      exported := if state.has 'a' then name :: state.exported else state.exported }
  | none => { state with bindings := others, exported := state.exported.filter (· != name) }

/-- The number that stands for the interpreter's own process. -/
def ownProcess : Nat := 4321

/-- Where a variable stands among those that programs get to know. -/
def bucketOf (name : String) : Nat :=
  let codes := (utf8 name).map (·.toNat)
  (codes.foldl (· + ·) (codes.headD 0 * 16)) % 39

/-- The variables that programs get to know. -/
def environment (state : Interpreter) : List (String × String) :=
  let known := state.bindings.filter fun (name, _) => state.exported.contains name
  known.reverse.mergeSort fun a b => bucketOf a.1 ≤ bucketOf b.1

/-- The options by name, each with its letter. -/
def optionNames : List (String × Char) :=
  [("errexit", 'e'), ("noglob", 'f'), ("ignoreeof", 'I'), ("interactive", 'i'), ("monitor", 'm'),
    ("noexec", 'n'), ("stdin", 's'), ("xtrace", 'x'), ("verbose", 'v'), ("vi", 'V'),
    ("emacs", 'E'), ("noclobber", 'C'), ("allexport", 'a'), ("notify", 'b'), ("nounset", 'u'),
    ("privileged", 'p'), ("nolog", 'l'), ("debug", 'd')]

/-- The letters by which options are set and shown; the last two options have none. -/
def optionLetters : List Char :=
  optionNames.dropLast.dropLast.map (·.2)

/-- The letters of the options that are set. -/
def shownOptions (state : Interpreter) : String :=
  String.ofList (optionLetters.reverse.filter state.has)

/-- Remember that a program has been found by its name. -/
def remember (state : Interpreter) (name : String) : Interpreter :=
  if name.contains '/' || state.found.contains name then state
  else { state with found := name :: state.found }

end Interpreter

namespace Run

/-- Set the code of the last command. -/
def setCode (code : UInt8) : Run Unit :=
  modify fun state => { state with lastCode := code }

/-- Put an element of a list by its key. -/
def replaced {α : Type} (key : Nat) (value : α) (entries : List (Nat × α)) : List (Nat × α) :=
  (key, value) :: entries.filter (·.1 != key)

/-- Write to a descriptor; the result tells whether that is possible. -/
def write (descriptor : Nat) (bytes : Bytes) : Run Bool := do
  let state ← get
  match state.descriptors.lookup descriptor with
  | some (.sink number) =>
    let pieces := (state.sinks.lookup number).getD []
    set { state with sinks := replaced number (bytes :: pieces) state.sinks }
    return true
  | some (.file place) =>
    if place = ["dev", "null"] then return true
    match state.files.entryAt? place with
    | some (.file data executable) =>
      set { state with files := state.files.put place (.file (data ++ bytes) executable) }
      return true
    | _ => return false
  | _ => return bytes.isEmpty

/-- Write to the output. -/
def print (bytes : Bytes) : Run Bool := write 1 bytes

/-- Complain under the name of the script and the number of the line. -/
def complain (text : String) : Run Unit := do
  let state ← get
  let _ ← write 2 (utf8 s!"{state.name}: {state.line}: {text}\n")

/-- Complain, and end the interpreter. -/
def fail {α : Type} (text : String) : Run α := do
  complain text
  throw .failed

/-- Give a variable a value. -/
def assign (name value : String) : Run Unit := do
  let state ← get
  if state.constants.contains name then fail s!"{name}: is read only"
  else
    let state := state.put name (some value)
    if name = "OPTIND" then
      set { state with optionIndex := (value.toNat?).getD 1, optionRest := [] }
    else set state

/-- What can be read from a descriptor: the number of its source and what is left in it. -/
def input? (descriptor : Nat) : Run (Option (Nat × Bytes)) := do
  let state ← get
  match state.descriptors.lookup descriptor with
  | some (.source number) => return some (number, (state.sources.lookup number).getD [])
  | _ => return none

/-- Leave something in a source. -/
def leave (number : Nat) (data : Bytes) : Run Unit :=
  modify fun state => { state with sources := replaced number data state.sources }

/-- A new source of some bytes; `isFile` tells that they are those of a file. -/
def newSource (data : Bytes) (isFile : Bool) : Run Nat := do
  let state ← get
  let size := if isFile then [(state.nextStream, data.length)] else []
  set { state with
    sources := (state.nextStream, data) :: state.sources
    fileSizes := size ++ state.fileSizes
    nextStream := state.nextStream + 1 }
  return state.nextStream

/-- A new sink. -/
def newSink : Run Nat := do
  let state ← get
  set { state with
    sinks := (state.nextStream, []) :: state.sinks
    nextStream := state.nextStream + 1 }
  return state.nextStream

/-- What has been written to a sink, which is given up. -/
def takeSink (number : Nat) : Run Bytes := do
  let state ← get
  set { state with sinks := state.sinks.filter (·.1 != number) }
  return state.written number

/-- Let a descriptor stand for something else, or for nothing. -/
def connect (descriptor : Nat) (target : Option Descriptor) : Run Unit :=
  modify fun state =>
    let others := state.descriptors.filter (·.1 != descriptor)
    { state with descriptors := (target.map (descriptor, ·)).toList ++ others }

/-- Run something and tell what interrupted it, if anything. -/
def attempt (body : Run Unit) : Run (Option Interrupt) :=
  tryCatch (do body; return none) fun interrupt => return some interrupt

/-- Run something with the descriptors as they are, whatever it does with them. -/
def keepingDescriptors (body : Run Unit) : Run Unit := do
  let descriptors := (← get).descriptors
  let interrupt ← attempt body
  modify fun state => { state with descriptors }
  match interrupt with
  | some interrupt => throw interrupt
  | none => pure ()

/-- The code of a mistake. -/
def mistakeCode : UInt8 := 2

/-- Run something in a subshell: the code it ends with. What becomes of sinks, sources and files
stays; a signal ends the interpreter too. -/
def isolated (body : Run Unit) : Run UInt8 := do
  let before ← get
  set { before with traps := [], jobs := [] }
  let interrupt ← attempt body
  let after ← get
  let files := { after.files with workingDirectory := before.files.workingDirectory }
  set { before with
    sinks := after.sinks, sources := after.sources, fileSizes := after.fileSizes
    nextStream := after.nextStream, files }
  match interrupt with
  | some (.ended code) => return code
  | some .failed => return mistakeCode
  | some (.killed signal) => throw (.killed signal)
  | _ => return after.lastCode

end Run

end CommandShell.Programs.Script
