import CommandShell.Program
import CommandShell.Programs.Arguments
import CommandShell.Stream.Input

/-!
# Calls of Standard Programs

What a standard program is called with, and what it leaves behind. Its complaints are kept apart
from its output: they are shown only where a script joins the two.
-/

namespace CommandShell.Programs

/-- What a standard program is called with. -/
structure Call where
  /-- The name that it is called by. -/
  name : String
  /-- Its arguments. -/
  args : List String
  /-- What it can read. -/
  input : Bytes
  /-- The size of the file that it reads, if it reads one. -/
  inputSize : Option Nat
  /-- The process variables. -/
  bindings : List (String × String)
  /-- The files it finds. -/
  files : Files
  /-- Complaints go where the output goes. -/
  joined : Bool
  deriving Repr

/-- What a standard program leaves behind. -/
structure Product where
  /-- What it wrote. -/
  output : Bytes
  /-- What it complained about. -/
  complaints : Bytes
  /-- How it ended. -/
  status : ExitStatus
  /-- The files after it. -/
  files : Files
  /-- What it left of its input. -/
  unread : Bytes
  deriving Repr

/-- A standard program, as what it makes of a call. -/
abbrev Utility := Call → Product

/-- A way to call programs: what becomes of a call, or why the program cannot be started. -/
abbrev Launch := Call → Except Failure Product

/-- A text between single quotes, as programs show it. -/
def quoted (text : String) : String :=
  s!"'{text}'"

/-- A name of a file as programs show it: between quotes if a script would need them. -/
def quotedIfNeeded (text : String) : String :=
  let isPlain (c : Char) : Bool := c.isAlphanum || "%+,-./:@_]^#".contains c
  if !text.isEmpty && text.all isPlain then text else quoted text

namespace Call

/-- The name of the program without the directories that it was found in. -/
def baseName (call : Call) : String :=
  ((Files.parts call.name).getLast?).getD call.name

/-- The program ends with a code, has written something and read nothing. -/
def ended (call : Call) (code : UInt8) (output : Bytes) : Product :=
  ⟨output, [], .code code, call.files, call.input⟩

/-- The program succeeds and has written something. -/
def success (call : Call) (output : Bytes) : Product :=
  call.ended 0 output

/-- A line of complaint, which begins with the name of the program. -/
def complaint (call : Call) (text : String) : Bytes :=
  utf8 s!"{call.name}: {text}\n"

/-- The program complains and ends with a code. -/
def refused (call : Call) (code : UInt8) (text : String) : Product :=
  { call.ended code [] with complaints := call.complaint text }

/-- The program complains about how it is used, and ends with a code. -/
def misused (call : Call) (code : UInt8) (text : String) : Product :=
  call.refused code s!"{text}\nTry '{call.name} --help' for more information."

/-- The program complains that something is missing, and ends with a code. -/
def lacking (call : Call) (code : UInt8) : Product :=
  call.misused code "missing operand"

/-- The program complains about an operand that it has no use for, and ends with a code. -/
def unneeded (call : Call) (code : UInt8) (operand : String) : Product :=
  call.misused code s!"extra operand {quoted operand}"

/-- Do something with the options and operands of the program; if they cannot be read, it ends
with a code. -/
def parsed (call : Call) (flags : List Flag) (failureCode : UInt8) (work : Arguments → Product) :
    Product :=
  match Arguments.read flags call.args with
  | .ok arguments => work arguments
  | .error text => call.misused failureCode text

end Call

namespace Product

/-- The program has read all of its input. -/
def exhausted (product : Product) : Product :=
  { product with unread := [] }

/-- The program has complained besides, and ends with a code because of it. -/
def spoiled (product : Product) (code : UInt8) (complaints : Bytes) : Product :=
  if complaints.isEmpty then product
  else { product with status := .code code, complaints := product.complaints ++ complaints }

end Product

/-- Let newlines and zero bytes change places. -/
def exchangeEnds (data : Bytes) : Bytes :=
  data.map fun b => if b = 0 then Input.newline else if b = Input.newline then 0 else b

/-- Work on lines that end with zero bytes, if `isZero` is set. -/
def withEnds (isZero : Bool) (work : Bytes → Bytes) (data : Bytes) : Bytes :=
  if isZero then exchangeEnds (work (exchangeEnds data)) else work data

/-- The lines of some bytes, the last one also if it is not complete. -/
def linesOf (data : Bytes) : List Bytes :=
  (Input.ofBytes data).lines

/-- Lines, each with a newline. -/
def unlines (lines : List Bytes) : Bytes :=
  lines.flatMap (· ++ [Input.newline])

/-- The lines of some bytes with their newlines, as they are. -/
def linesWithEnds (data : Bytes) : List Bytes :=
  let last := Input.lastPart data
  (Input.completeLines data).map (· ++ [Input.newline]) ++ (if last.isEmpty then [] else [last])

/-- What is in a file. -/
def contentsOf (files : Files) (path : String) : Except Failure Bytes := do
  match ← files.openInput path with
  | ⟨data, none⟩ => return data
  | ⟨_, some failure⟩ => .error failure

/-- Operands, each with what is in it or with why it cannot be read. -/
abbrev Contents := List (String × Except Failure Bytes)

/-- The operands that can be read, with what is in them. -/
def Contents.good (contents : Contents) : List (String × Bytes) :=
  contents.filterMap fun
    | (path, .ok data) => some (path, data)
    | (_, .error _) => none

/-- What is in all operands that can be read, one after the other. -/
def Contents.joined (contents : Contents) : Bytes :=
  contents.good.flatMap (·.2)

namespace Call

/-- Read operands one after the other, or the input for `-`, which can be read only once. -/
def readEach (files : Files) : (input : Bytes) → List String → Contents
  | _, [] => []
  | input, "-" :: rest => ("-", .ok input) :: readEach files [] rest
  | input, "/dev/stdin" :: rest => ("/dev/stdin", .ok input) :: readEach files [] rest
  | input, path :: rest => (path, contentsOf files path) :: readEach files input rest

/-- The operands with their contents; without operands the input. -/
def contents (call : Call) (paths : List String) : Contents :=
  readEach call.files call.input (if paths.isEmpty then ["-"] else paths)

/-- Complaints about the operands that cannot be read, in words given by `describe`. -/
def complaintsAbout (call : Call) (describe : String → Failure → String) (contents : Contents) :
    Bytes :=
  contents.flatMap fun
    | (path, .error failure) => call.complaint (describe path failure)
    | (_, .ok _) => []

/-- The operand with what is wrong with it. -/
def plainly (path : String) (failure : Failure) : String :=
  s!"{quotedIfNeeded path}: {failure.description}"

/-- The program reads its input, if it has no operands or one that stands for it. -/
def reads (call : Call) (paths : List String) (product : Product) : Product :=
  if paths.isEmpty || paths.contains "-" || paths.contains "/dev/stdin" then product.exhausted
  else { product with unread := call.input }

/-- Make an output of operands, or of the input without any; one that cannot be read makes the
program end with a code. -/
def onEach (call : Call) (failureCode : UInt8) (paths : List String)
    (work : List (String × Bytes) → Bytes) : Product :=
  let contents := call.contents paths
  (call.reads paths (call.success (work contents.good))).spoiled failureCode
    (call.complaintsAbout plainly contents)

/-- Make an output of what is in all operands together. -/
def onContents (call : Call) (failureCode : UInt8) (paths : List String) (work : Bytes → Bytes) :
    Product :=
  call.onEach failureCode paths fun good => work (good.flatMap (·.2))

end Call

end CommandShell.Programs
