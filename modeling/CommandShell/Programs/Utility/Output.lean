import CommandShell.Programs.Printf
import CommandShell.Programs.Utility.Size

/-!
# Output and Facts

Programs that print their arguments, or facts about the system and the process that do not depend
on anything else.
-/

namespace CommandShell.Programs

/-- The options at the beginning of the arguments of `echo`, and the other arguments. -/
def splitEchoOptions : List String → List Char × List String
  | [] => ([], [])
  | arg :: rest =>
    let letters := arg.toList.drop 1
    if arg.startsWith "-" && !letters.isEmpty && letters.all ("neE".toList.contains ·) then
      let (others, rest) := splitEchoOptions rest
      (letters ++ others, rest)
    else ([], arg :: rest)

/-- Print arguments; with `-e` escapes are replaced. -/
def echo : Utility := fun call =>
  let (letters, args) := splitEchoOptions call.args
  let text := " ".intercalate args
  let isEscaped := (letters.reverse.find? fun c => c = 'e' || c = 'E') = some 'e'
  let printed := if isEscaped then unescape .ofEcho text.length text.toList
    else .ofBytes (utf8 text)
  let ending := if letters.contains 'n' || printed.stopped then [] else [Input.newline]
  call.success (printed.bytes ++ ending)

/-- Print by a format. -/
def printFormatted : Utility := fun call =>
  if call.args.isEmpty || call.args = ["--"] then call.lacking 1
  else
    let (bytes, code) := printf .ofProgram call.args
    call.ended code bytes

/-- How many times `yes` is taken to print its line: more than anything reads before it ends. -/
def yesCount : Nat := Nat.pow 2 18

/-- Print a line again and again. -/
def yes : Utility := fun call =>
  match Arguments.read [] call.args with
  | .error text => call.misused 1 text
  | .ok arguments =>
    let operands := arguments.operands
    let line := utf8 ((if operands.isEmpty then "y" else " ".intercalate operands) ++ "\n")
    { call.success (List.replicate yesCount line).flatten with status := .pipeClosed }

/-- Print the working directory. -/
def printWorkingDirectory : Utility := fun call =>
  call.parsed (flagsOf "LP" "" [('L', "logical"), ('P', "physical")]) 1 fun _ =>
    call.success (utf8 (Files.pathOf call.files.workingDirectory ++ "\n"))

/-- Do nothing and end with a code. -/
def ending (code : UInt8) : Utility := fun call => call.ended code []

/-- Print a line and end with a code. -/
def saying (code : UInt8) (line : String) : Utility := fun call =>
  call.ended code (utf8 (line ++ "\n"))

/-- The number of seconds that an argument gives is one. -/
def isDuration (text : String) : Bool :=
  let chars := text.toList
  let body := match chars.getLast? with
    | some c => if "smhd".toList.contains c then chars.dropLast else chars
    | none => chars
  let digits := body.filter (· != '.')
  !digits.isEmpty && digits.all Char.isDigit && (body.count '.') ≤ 1

/-- Wait for some time; nothing can tell how long that takes. -/
def sleep : Utility := fun call =>
  match call.args.find? (!isDuration ·) with
  | some text => call.misused 1 s!"invalid time interval {quoted text}"
  | none => if call.args.isEmpty then call.lacking 1 else call.success []

/-- Tell who the user is. -/
def identity : Utility := fun call =>
  match Arguments.read (flagsOf "ugGnr" "" [('u', "user"), ('g', "group"), ('n', "name")])
      call.args with
  | .error text => call.misused 1 text
  | .ok arguments =>
    let isShort := ['u', 'g', 'G'].any arguments.has
    if !isShort then saying 0 "uid=0(root) gid=0(root) groups=0(root)" call
    else saying 0 (if arguments.has 'n' then "root" else "0") call

/-- Tell the name of the system. -/
def systemName : Utility := fun call =>
  if call.args.isEmpty || call.args = ["-s"] then saying 0 "Linux" call
  else if call.args = ["-m"] then saying 0 "x86_64" call
  else if call.args = ["-o"] then saying 0 "GNU/Linux" call
  else call.success []

/-- Tell whether the input is a terminal. -/
def terminalName : Utility := fun call =>
  if call.args = ["-s"] then call.ended 1 [] else saying 1 "not a tty" call

/-- Print the values of process variables, or all of them with their names. -/
def printVariables : Utility := fun call =>
  call.parsed (flagsOf "0" "" [('0', "null")]) 2 fun arguments =>
    let ending := if arguments.has '0' then "\x00" else "\n"
    if arguments.operands.isEmpty then
      call.success (utf8 (String.join (call.bindings.map fun (name, value) =>
        s!"{name}={value}{ending}")))
    else
      let values := arguments.operands.map fun name => call.bindings.lookup name
      let code : UInt8 := if values.all (·.isSome) then 0 else 1
      call.ended code (utf8 (String.join ((values.filterMap id).map fun value => value ++ ending)))

end CommandShell.Programs
