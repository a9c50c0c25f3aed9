import CommandShell.Programs.Printf
import CommandShell.Programs.Script.Condition
import CommandShell.Programs.Script.Expansion

/-!
# Commands of the Interpreter

The commands that the interpreter of scripts carries out itself, because they concern its own
state, or to save the start of a program. Some of them are special: a mistake in one of these ends
the script.
-/

namespace CommandShell.Programs.Script

/-- What the interpreter calls on to run what is not its own. -/
structure System where
  /-- Call a program. -/
  launch : Launch
  /-- The path of a program that is called by name, if there is one. -/
  find : (bindings : List (String × String)) → Files → String → Option String

/-- What commands call on to run other commands. -/
structure Machinery where
  /-- Programs. -/
  system : System
  /-- Run some commands. -/
  run : List Command → Run Unit
  /-- Run a text as a script. -/
  source : String → Run Unit

/-- A command of the interpreter, as what it does with its arguments. -/
abbrev Builtin := Machinery → List String → Run Unit

namespace Builtin

/-- Complain and fail with a code. -/
def refuse (code : UInt8) (text : String) : Run Unit := do
  Run.complain text
  Run.setCode code

/-- Print and succeed. -/
def printing (bytes : Bytes) : Run Unit := do
  let isGood ← Run.print bytes
  Run.setCode (if isGood then 0 else 1)

/-- The options before the operands of a command, by their letters, and the operands; what is
refused is an option that is not known. -/
def splitOptions (known : List Char) : List String → Except Char (List Char × List String)
  | [] => .ok ([], [])
  | "--" :: rest => .ok ([], rest)
  | arg :: rest =>
    match arg.toList with
    | '-' :: letter :: letters =>
      match (letter :: letters).find? (!known.contains ·) with
      | some other => .error other
      | none => do
        let (more, operands) ← splitOptions known rest
        return (letter :: letters ++ more, operands)
    | _ => .ok ([], arg :: rest)

/-- The options before the operands of a command, and the operands; it is a complaint if an option
is not known. -/
def readOptions (name : String) (known : List Char) (args : List String) :
    Run (List Char × List String) := do
  match splitOptions known args with
  | .ok found => return found
  | .error letter => Run.fail s!"{name}: Illegal option -{letter}"

/-- Insist that a name can be the name of a variable. -/
def insistOnName (command name : String) : Run Unit := do
  if !Text.isIdentifier name.toList then Run.fail s!"{command}: {name}: bad variable name"

/-- Succeed. -/
def succeed : Builtin := fun _ _ => Run.setCode 0

/-- Print arguments with their escapes replaced. -/
def echo : Builtin := fun _ args => do
  let (withEnd, args) := match args with
    | "-n" :: rest => (false, rest)
    | _ => (true, args)
  let text := " ".intercalate args
  let printed := unescape .ofInterpreter text.length text.toList
  printing (printed.bytes ++ if withEnd && !printed.stopped then [Input.newline] else [])

/-- Print by a format. -/
def printf : Builtin := fun _ args => do
  let (_, args) ← readOptions "printf" [] args
  if args.isEmpty then Run.fail "printf: usage: printf format [arg ...]"
  let (bytes, code) := Programs.printf .ofInterpreter ("--" :: args)
  let _ ← Run.print bytes
  Run.setCode code

/-- Decide a condition. -/
def test (name : String) : Builtin := fun _ args => do
  match Condition.decideCalled (← get).files name args with
  | .error fault => Run.fail s!"{name}: {fault.message}"
  | .ok truth => Run.setCode (if truth then 0 else 1)

/-- A code from an argument; it is a complaint if the argument is no number. -/
def codeOf (name : String) (args : List String) : Run UInt8 := do
  match args with
  | [] => return (← get).lastCode
  | text :: _ =>
    if !text.isEmpty && text.all Char.isDigit then return UInt8.ofNat (text.toNat?.getD 0)
    else Run.fail s!"{name}: Illegal number: {text}"

/-- End the script. -/
def exit : Builtin := fun _ args => do
  throw (.ended (← codeOf "exit" args))

/-- Leave a function. -/
def leave : Builtin := fun _ args => do
  Run.setCode (← codeOf "return" args)
  throw .returned

/-- A number of loops from an argument. -/
def levelsOf (name : String) (args : List String) : Run Nat := do
  let code ← match args with
    | [] => pure 1
    | _ => codeOf name args
  if code = 0 then Run.fail s!"{name}: Illegal number: 0" else return code.toNat

/-- Leave loops. -/
def breakLoops : Builtin := fun _ args => do
  let levels ← levelsOf "break" args
  Run.setCode 0
  let loops := (← get).loops
  if loops != 0 then throw (.broken (min levels loops))

/-- Go on with the next round of a loop. -/
def continueLoops : Builtin := fun _ args => do
  let levels ← levelsOf "continue" args
  Run.setCode 0
  let loops := (← get).loops
  if loops != 0 then throw (.continued (min levels loops))

/-- The directory that a path leads to. -/
def directoryAt? (files : Files) (path : String) : Option Place :=
  match files.locate (if path.isEmpty then "." else path) with
  | .ok place => if files.entryAt? place = some .directory then some place else none
  | .error _ => none

/-- The directories below which a path is looked for, and whether it is to be shown that it was
found there. -/
def startingPoints (state : Interpreter) (path : String) : List String :=
  let first := (path.splitOn "/").headD ""
  if path.isEmpty || ["", ".", ".."].contains first then []
  else ((state.binding? "CDPATH").getD "").splitOn ":" |>.filter (!·.isEmpty)

/-- Change the working directory. -/
def changeDirectory : Builtin := fun _ args => do
  let (_, args) ← readOptions "cd" ['L', 'P'] args
  let state ← get
  let old := Files.pathOf state.files.workingDirectory
  let (path, isShown) := match args with
    | [] => ((state.binding? "HOME").getD "", false)
    | "-" :: _ => ((state.binding? "OLDPWD").getD old, true)
    | path :: _ => (path, false)
  let elsewhere := (startingPoints state path).findSome? fun start =>
    directoryAt? state.files s!"{start}/{path}"
  match elsewhere.or (directoryAt? state.files path) with
  | none => refuse 2 s!"cd: can't cd to {path}"
  | some place => do
    set { state with
      files := { state.files with workingDirectory := place }
      exported := "OLDPWD" :: "PWD" :: state.exported }
    Run.assign "OLDPWD" old
    Run.assign "PWD" (Files.pathOf place)
    if isShown || elsewhere.isSome then printing (utf8 (Files.pathOf place ++ "\n"))
    else Run.setCode 0

/-- Print the working directory. -/
def printDirectory : Builtin := fun _ args => do
  let _ ← readOptions "pwd" ['L', 'P'] args
  printing (utf8 (Files.pathOf (← get).files.workingDirectory ++ "\n"))

/-- Drop arguments. -/
def shift : Builtin := fun _ args => do
  let count ← match args with
    | [] => pure 1
    | _ => codeOf "shift" args
  let state ← get
  if state.arguments.length < count.toNat then Run.fail "shift: can't shift that many"
  else set { state with arguments := state.arguments.drop count.toNat, lastCode := 0 }

/-- A text between single quotes, so that it can be read again. -/
def quotedText (text : String) : String :=
  "'" ++ text.replace "'" "'\"'\"'" ++ "'"

/-- Set options and arguments; it is a complaint if an option is not known. -/
def setOptions : List String → Run Unit
  | [] => pure ()
  | "--" :: rest => modify fun state => { state with arguments := rest }
  | "-" :: rest =>
    modify fun state =>
      { state with
        options := state.options.filter fun c => c != 'x' && c != 'v'
        arguments := if rest.isEmpty then state.arguments else rest }
  | "-o" :: name :: rest => do
    match Interpreter.optionNames.lookup name with
    | some letter => do
      modify fun state => { state with options := letter :: state.options }
      setOptions rest
    | none => Run.fail s!"set: Illegal option -o {name}"
  | "+o" :: name :: rest => do
    match Interpreter.optionNames.lookup name with
    | some letter => do
      modify fun state => { state with options := state.options.filter (· != letter) }
      setOptions rest
    | none => Run.fail s!"set: Illegal option +o {name}"
  | arg :: rest => do
    let unknown? (letters : List Char) : Option Char :=
      letters.find? (!Interpreter.optionLetters.contains ·)
    match arg.toList with
    | '-' :: letters =>
      match unknown? letters with
      | some letter => Run.fail s!"set: Illegal option -{letter}"
      | none => do
        modify fun state => { state with options := letters ++ state.options }
        setOptions rest
    | '+' :: letters =>
      match unknown? letters with
      | some letter => Run.fail s!"set: Illegal option +{letter}"
      | none => do
        modify fun state => { state with options := state.options.filter (!letters.contains ·) }
        setOptions rest
    | _ => modify fun state => { state with arguments := arg :: rest }

/-- Set options and arguments, or print the options or the variables. -/
def set : Builtin := fun _ args => do
  let state ← get
  match args with
  | [] =>
    let sorted := state.bindings.mergeSort fun a b => a.1 ≤ b.1
    printing (utf8 (String.join (sorted.map fun (name, value) =>
      s!"{name}={quotedText value}\n")))
  | ["-o"] =>
    let lines := Interpreter.optionNames.map fun (name, letter) =>
      let gap := "".pushn ' ' (16 - name.length)
      let value := if state.has letter then "on" else "off"
      s!"{name}{gap}{value}\n"
    printing (utf8 ("Current option settings\n" ++ String.join lines))
  | ["+o"] =>
    let lines := Interpreter.optionNames.map fun (name, letter) =>
      let option := if state.has letter then "-o" else "+o"
      s!"set {option} {name}\n"
    printing (utf8 (String.join lines))
  | _ => do
    setOptions args
    Run.setCode 0

/-- Take away variables or functions. -/
def unset : Builtin := fun _ args => do
  let (options, names) ← readOptions "unset" ['f', 'v'] args
  names.forM fun name => do
    let state ← get
    if options.contains 'f' then
      MonadStateOf.set { state with functions := state.functions.filter (·.1 != name) }
    else
      insistOnName "unset" name
      if state.constants.contains name then Run.fail s!"unset: {name}: is read only"
      MonadStateOf.set (state.put name none)
  Run.setCode 0

/-- The name of a variable and its value, from an argument such as `name=value`. -/
def splitAssignment (text : String) : String × Option String :=
  let name := text.toList.takeWhile (· != '=')
  match text.toList.drop name.length with
  | [] => (text, none)
  | _ :: value => (String.ofList name, some (String.ofList value))

/-- Give variables values, if there are any, and a mark. -/
def declare (command : String) (mark : String → Run Unit) (operands : List String) :
    Run Unit := do
  operands.forM fun operand => do
    let (name, value) := splitAssignment operand
    insistOnName command name
    match value with
    | some value => Run.assign name value
    | none => pure ()
    mark name
  Run.setCode 0

/-- The values of some variables as commands that give them again. -/
def showDeclared (command : String) (names : List String) : Run Unit := do
  let state ← get
  let sorted := names.eraseDups.mergeSort fun a b => a ≤ b
  printing (utf8 (String.join (sorted.map fun name =>
    match state.binding? name with
    | some value => s!"{command} {name}={quotedText value}\n"
    | none => s!"{command} {name}\n")))

/-- Let programs know variables. -/
def exportNames : Builtin := fun _ args => do
  let (options, operands) ← readOptions "export" ['p'] args
  if operands.isEmpty || options.contains 'p' then showDeclared "export" (← get).exported
  else declare "export" (fun name =>
    modify fun state => { state with exported := name :: state.exported }) operands

/-- Let variables not be changed any more. -/
def readonly : Builtin := fun _ args => do
  let (options, operands) ← readOptions "readonly" ['p'] args
  if operands.isEmpty || options.contains 'p' then showDeclared "readonly" (← get).constants
  else declare "readonly" (fun name =>
    modify fun state => { state with constants := name :: state.constants }) operands

/-- Let variables have their values only within the function being run. -/
def makeLocal : Builtin := fun _ args => do
  match (← get).locals with
  | [] => Run.fail "local: not in a function"
  | _ => do
    (args.filter (· != "-")).forM fun arg => do
      let (name, value) := splitAssignment arg
      insistOnName "local" name
      let state ← get
      let saved := match state.locals with
        | frame :: others => ((name, state.binding? name) :: frame) :: others
        | [] => []
      MonadStateOf.set { state with locals := saved }
      match value with
      | some value => Run.assign name value
      | none => pure ()
    Run.setCode 0

/-- The characters of a line that is read, each with whether a backslash protects it, and what is
left of the input; `raw` lets backslashes stand for themselves. -/
def takeLine (raw : Bool) : List Char → List (Char × Bool) × Option (List Char)
  | [] => ([], none)
  | c :: rest =>
    if c = '\n' then ([], some rest)
    else if c = '\\' && !raw then
      match rest with
      | [] => ([], none)
      | d :: rest =>
        let (others, left) := takeLine raw rest
        (if d = '\n' then others else (d, true) :: others, left)
    else
      let (others, left) := takeLine raw rest
      ((c, false) :: others, left)

/-- Divide what has been read among so many variables: the last one gets all that is left, without
the separator at its end if it is a single field. -/
def divide (separators : List Char) : (count : Nat) → List (Char × Bool) → List String
  | 0, _ => []
  | count + 1, text =>
    let isSeparator (c : Char × Bool) : Bool := separators.contains c.1 && !c.2
    let isBlank (c : Char × Bool) : Bool := isSeparator c && isFieldBlank c.1
    let shown (text : List (Char × Bool)) : String := String.ofList (text.map (·.1))
    let text := text.dropWhile isBlank
    let first := text.takeWhile (!isSeparator ·)
    let rest := match (text.drop first.length).dropWhile isBlank with
      | c :: more => if isSeparator c then more else c :: more
      | [] => []
    if count = 0 then
      if (rest.dropWhile isBlank).isEmpty then [shown first]
      else [shown (text.reverse.dropWhile isBlank).reverse]
    else shown first :: divide separators count rest

/-- The options of the command that reads a line: whether backslashes stand for themselves, and
the names of the variables. A prompt is an operand of an option. -/
def readNames : List String → Run (Bool × List String)
  | "--" :: rest => return (false, rest)
  | "-p" :: _ :: rest => readNames rest
  | "-r" :: rest => do return (true, (← readNames rest).2)
  | arg :: rest =>
    match arg.toList with
    | '-' :: letter :: _ => Run.fail s!"read: Illegal option -{letter}"
    | _ => return (false, arg :: rest)
  | [] => return (false, [])

/-- Read a line into variables. -/
def read : Builtin := fun _ args => do
  let (raw, names) ← readNames args
  if names.isEmpty then Run.fail "read: arg count"
  let (line, isWhole) ← match ← Run.input? 0 with
    | none => pure ([], false)
    | some (source, data) => do
      let (line, left) := takeLine raw (data.map fun b => Char.ofNat b.toNat)
      Run.leave source (bytesOf (left.getD []))
      pure (line, left.isSome)
  let values := divide (← get).separators names.length line
  (names.zip values).forM fun (name, value) => do
    insistOnName "read" name
    Run.assign name (lossyText (bytesOf value.toList))
  Run.setCode (if isWhole then 0 else 1)
where
  /-- The bytes that stand for themselves as characters. -/
  bytesOf (text : List Char) : Bytes := text.map fun c => UInt8.ofNat c.toNat

/-- The numbers of signals by name. -/
def signals : List (String × Nat) :=
  [("HUP", 1), ("INT", 2), ("QUIT", 3), ("ILL", 4), ("TRAP", 5), ("ABRT", 6), ("BUS", 7),
    ("FPE", 8), ("KILL", 9), ("USR1", 10), ("SEGV", 11), ("USR2", 12), ("PIPE", 13), ("ALRM", 14),
    ("TERM", 15), ("STKFLT", 16), ("CHLD", 17), ("CONT", 18), ("STOP", 19), ("TSTP", 20),
    ("TTIN", 21), ("TTOU", 22), ("URG", 23), ("XCPU", 24), ("XFSZ", 25), ("VTALRM", 26),
    ("PROF", 27), ("WINCH", 28), ("IO", 29), ("PWR", 30), ("SYS", 31)]

/-- The signals that do not end a program. -/
def harmless : List Nat := [17, 18, 19, 20, 21, 22, 23, 28]

/-- The name of a signal or of the end of the script, which is given by name or number. -/
def conditionName? (text : String) : Option String :=
  let name := (if text.startsWith "SIG" then (text.drop 3).toString else text).toUpper
  if text = "0" || name = "EXIT" then some "EXIT"
  else
    match text.toNat? with
    | some number => (signals.find? (·.2 == number)).map (·.1)
    | none => (signals.find? (·.1 == name)).map (·.1)

/-- Send a signal to the interpreter itself: what is set for it is done, or it ends. -/
def receive (machinery : Machinery) (name : String) : Run Unit := do
  let state ← get
  let number := (signals.lookup name).getD 0
  match state.traps.lookup name with
  | some action =>
    if number = 9 then throw (.ofSignal 9)
    else do
      machinery.source action
      Run.setCode 0
  | none =>
    if harmless.contains number then Run.setCode 0
    else throw (.ofSignal number)

/-- How signals are sent. -/
def killUsage : String :=
  "kill: Usage: kill [-s sigspec | -signum | -sigspec] [pid | job]... or\nkill -l [exitstatus]"

/-- The names of signals by their numbers, as far as they are listed. -/
def listedSignals : List (Nat × String) :=
  let counted (base : String) (sign : String) (n : Nat) : String :=
    if n = 0 then base else s!"{base}{sign}{n}"
  signals.map (fun (name, number) => (number, name)) ++
    (List.range 16).map (fun n => (34 + n, counted "RTMIN" "+" n)) ++
    (List.range 15).map fun n => (50 + n, counted "RTMAX" "-" (14 - n))

/-- List the signals, or name the one that ended a program with a code. -/
def listSignals (args : List String) : Run Unit := do
  match args with
  | [] =>
    let lines := (List.range 65).filterMap fun number =>
      if number = 0 then some "0\n"
      else some (((listedSignals.lookup number).getD (toString number)) ++ "\n")
    printing (utf8 (String.join lines))
  | text :: _ => do
    match text.toNat? with
    | none => Run.fail s!"kill: Illegal number: {text}"
    | some code =>
      match listedSignals.lookup (if code < 128 then code else code - 128) with
      | some name => printing (utf8 (name ++ "\n"))
      | none => Run.fail s!"kill: invalid signal number or exit status: {text}"

/-- Send a signal. -/
def kill : Builtin := fun machinery args => do
  let named (name : String) : Run String := do
    match conditionName? name with
    | some name => return name
    | none => Run.fail s!"kill: invalid signal number or name: {name}"
  let (signal, targets) ← match args with
    | "-l" :: rest => return (← listSignals rest)
    | "-s" :: name :: rest => pure (← named name, rest)
    | "--" :: rest => pure ("TERM", rest)
    | arg :: rest =>
      if arg.startsWith "-" then
        match conditionName? (arg.drop 1).toString with
        | some name => pure (name, rest)
        | none => Run.fail s!"kill: Illegal option {arg.take 2}"
      else pure ("TERM", args)
    | [] => pure ("TERM", [])
  let targets := if targets.head? = some "--" then targets.tail else targets
  if targets.isEmpty then Run.fail killUsage
  targets.forM fun target => do
    if target.startsWith "%" then Run.fail s!"kill: No such job: {target}"
    match target.toNat? with
    | none => Run.fail s!"kill: Illegal number: {target}"
    | some number =>
      if number = Interpreter.ownProcess || number = 0 then
        if signal = "EXIT" then Run.setCode 0 else receive machinery signal
      else
        Run.complain "kill: No such process\n"
        Run.setCode 1

/-- Say what is to be done on signals and at the end. -/
def trap : Builtin := fun _ args => do
  let (_, args) ← match args with
    | "-" :: _ => pure ([], args)
    | _ => readOptions "trap" [] args
  match args with
  | [] => do
    let shown := (← get).traps.map fun (name, action) => s!"trap -- {quotedText action} {name}\n"
    printing (utf8 (String.join shown))
  | action :: rest => do
    let isReset := action = "-" || rest.isEmpty || (action.toNat?).isSome
    let conditions := if action = "-" || !isReset then rest else args
    Run.setCode 0
    conditions.forM fun condition => do
      match conditionName? condition with
      | none => do
        let _ ← Run.write 2 (utf8 s!"trap: {condition}: bad trap\n")
        Run.setCode 1
      | some name =>
        modify fun state =>
          let others := state.traps.filter (·.1 != name)
          { state with traps := if isReset then others else others ++ [(name, action)] }

/-- The letters of options that are to be taken next, and the position after the argument they
stand in. -/
def optionLetters (state : Interpreter) (arguments : List String) : List Char × Nat :=
  let index := state.optionIndex
  if !state.optionRest.isEmpty then (state.optionRest, index)
  else
    match (arguments[index - 1]?).map (·.toList) with
    | some ['-', '-'] => ([], index + 1)
    | some ('-' :: letters) => (letters, if letters.isEmpty then index else index + 1)
    | _ => ([], index)

/-- Take the next option of the script from its arguments. -/
def getOption : Builtin := fun _ args => do
  match args with
  | letters :: name :: given => do
    let state ← get
    let arguments := if given.isEmpty then state.arguments else given
    let isQuiet := letters.startsWith ":"
    let finish (found : Char) (rest : List Char) (index : Nat) : Run Unit := do
      Run.assign "OPTIND" (toString index)
      modify fun state => { state with optionRest := rest }
      Run.assign name (String.singleton found)
    match optionLetters state arguments with
    | ([], index) => do
      finish '?' [] index
      Run.setCode 1
    | (letter :: rest, index) => do
      let known := letters.toList.dropWhile (· == ':')
      let after := (known.dropWhile (· != letter)).drop 1
      if !known.contains letter || letter = ':' then do
        if isQuiet then Run.assign "OPTARG" (String.singleton letter)
        else
          let _ ← Run.write 2 (utf8 s!"Illegal option -{letter}\n")
          modify fun state => state.put "OPTARG" none
        finish '?' rest index
      else if after.head? = some ':' then do
        match rest, arguments[index - 1]? with
        | [], none => do
          if isQuiet then Run.assign "OPTARG" (String.singleton letter)
          else
            let _ ← Run.write 2 (utf8 s!"No arg for -{letter} option\n")
            modify fun state => state.put "OPTARG" none
          finish (if isQuiet then ':' else '?') [] index
        | [], some value => do
          Run.assign "OPTARG" value
          finish letter [] (index + 1)
        | _, _ => do
          Run.assign "OPTARG" (String.ofList rest)
          finish letter [] index
      else do
        Run.assign "OPTARG" ""
        finish letter rest index
      Run.setCode 0
  | _ => Run.fail "getopts: Usage: getopts optstring var [arg...]"

/-- Wait for commands that were run in the background: the code of the last of them. -/
def wait : Builtin := fun _ args => do
  let (_, operands) ← readOptions "wait" [] args
  Run.setCode 0
  operands.forM fun operand => do
    let jobs := (← get).jobs
    match operand.toNat?, operand.toList with
    | some number, _ => Run.setCode ((jobs.lookup number).getD 127)
    | none, '%' :: position =>
      match (String.ofList position).toNat?.bind fun n => jobs.reverse[n - 1]? with
      | some (_, code) => Run.setCode code
      | none => Run.fail s!"wait: No such job: {operand}"
    | none, _ => Run.fail s!"wait: Illegal number: {operand}"

/-- Go on with a command in the foreground or background: there is none that has been stopped. -/
def resume (name : String) : Builtin := fun _ args => do
  let (_, operands) ← readOptions name [] args
  match operands with
  | [] => Run.fail s!"{name}: No current job"
  | job :: _ => Run.fail s!"{name}: No such job: {job}"

/-- List the commands that are run in the background: all have ended. -/
def jobs : Builtin := fun _ args => do
  let _ ← readOptions "jobs" ['l', 'p'] args
  Run.setCode 0

/-- How limits are set: there are none. -/
def limit : Builtin := fun _ args => do
  let (_, operands) ← readOptions "ulimit" "HSacdflmnprstvw".toList args
  if operands.isEmpty then printing (utf8 "unlimited\n") else Run.setCode 0

/-- The permissions of a mask for one class of users, by the letters of what is allowed. -/
def allowedLetters (mask shift : Nat) : String :=
  let denied := mask / Nat.pow 2 shift % 8
  let letters := [(4, "r"), (2, "w"), (1, "x")].map fun (bit, letter) =>
    if denied / bit % 2 = 0 then letter else ""
  String.join letters

/-- A number as so many octal digits. -/
def octalDigits (count n : Nat) : String :=
  let digits := Nat.toDigits 8 n
  String.ofList (List.replicate (count - digits.length) '0' ++ digits)

/-- The mask after a change such as `g-w`: the users, the sign and the permissions. -/
def changedMask? (mask : Nat) (change : List Char) : Option Nat :=
  let users := change.takeWhile fun c => "ugoa".contains c
  let shifts := if users.isEmpty || users.contains 'a' then [6, 3, 0]
    else [('u', 6), ('g', 3), ('o', 0)].filterMap fun (user, shift) =>
      if users.contains user then some shift else none
  match change.drop users.length with
  | sign :: letters =>
    let bits := [('r', 4), ('w', 2), ('x', 1)].foldl (fun sum (letter, bit) =>
      if letters.contains letter then sum + bit else sum) 0
    if letters.any fun c => !"rwxXst".contains c then none
    else
      let spread (bits : Nat) : Nat :=
        shifts.foldl (fun sum shift => sum + bits * Nat.pow 2 shift) 0
      match sign with
      | '+' => some (mask &&& (511 ^^^ spread bits))
      | '-' => some (mask ||| spread bits)
      | '=' => some ((mask ||| spread 7) &&& (511 ^^^ spread bits))
      | _ => none
  | [] => none

/-- Set or print the permissions that new files do not get. -/
def setMask : Builtin := fun _ args => do
  let (options, operands) ← readOptions "umask" ['S'] args
  let mask := (← get).mask
  match operands with
  | [] =>
    if options.contains 'S' then
      let shown := s!"u={allowedLetters mask 6},g={allowedLetters mask 3}"
      printing (utf8 s!"{shown},o={allowedLetters mask 0}\n")
    else printing (utf8 (octalDigits 4 mask ++ "\n"))
  | text :: _ => do
    let next ←
      if text.toList.head?.any Char.isDigit then
        let (value, rest) := readDigitsOf 8 octalDigit? text.length 0 text.toList
        if rest.isEmpty then pure (value % 512) else Run.fail s!"umask: Illegal number: {text}"
      else
        let changes := text.splitOn ","
        match changes.foldlM (fun mask change => changedMask? mask change.toList) mask with
        | some next => pure next
        | none => Run.fail s!"umask: Illegal mode: {text}"
    modify fun state => { state with mask := next }
    Run.setCode 0

/-- Give commands other names, or print these. -/
def aliasNames : Builtin := fun _ args => do
  let shown (entry : String × String) : Bytes := utf8 s!"{entry.1}={quotedText entry.2}\n"
  Run.setCode 0
  if args.isEmpty then
    let _ ← Run.print ((← get).aliases.flatMap shown)
  args.forM fun arg => do
    let state ← get
    match splitAssignment arg with
    | (name, some value) =>
      let others := state.aliases.filter (·.1 != name)
      MonadStateOf.set { state with aliases := (name, value) :: others }
    | (name, none) =>
      match state.aliases.lookup name with
      | some value =>
        let _ ← Run.print (shown (name, value))
      | none => do
        let _ ← Run.write 2 (utf8 s!"alias: {name} not found\n")
        Run.setCode 1

/-- Take away other names of commands. -/
def unaliasNames : Builtin := fun _ args => do
  let (options, names) ← readOptions "unalias" ['a'] args
  Run.setCode 0
  if options.contains 'a' then modify fun state => { state with aliases := [] }
  names.forM fun name => do
    let state ← get
    if (state.aliases.lookup name).isNone then
      let _ ← Run.write 2 (utf8 s!"unalias: {name} not found\n")
      Run.setCode 1
    modify fun state => { state with aliases := state.aliases.filter (·.1 != name) }

/-- Look for programs, or print where those are that have been found so far. -/
def hashNames : Builtin := fun machinery args => do
  let (options, names) ← readOptions "hash" ['r'] args
  Run.setCode 0
  if options.contains 'r' then modify fun state => { state with found := [] }
  let state ← get
  let pathOf (name : String) : Option String :=
    machinery.system.find state.bindings state.files name
  if args.isEmpty then
    let _ ← Run.print (utf8 (String.join (state.found.filterMap fun name =>
      (pathOf name).map (· ++ "\n"))))
  names.forM fun name => do
    if (pathOf name).isSome then modify fun state => state.remember name
    else
      Run.complain s!"hash: {name}: not found"
      Run.setCode 1

/-- Run arguments as a script. -/
def evaluate : Builtin := fun machinery args => do
  Run.setCode 0
  machinery.source (" ".intercalate args)

/-- Run the commands of a file, which is not looked for in the working directory. -/
def sourceFile : Builtin := fun machinery args => do
  match args with
  | [] => Run.setCode 0
  | path :: _ => do
    if !path.contains '/' then Run.fail s!".: {path}: not found"
    match contentsOf (← get).files path with
    | .ok data => do
      Run.setCode 0
      match ← Run.attempt (machinery.source (lossyText data)) with
      | none | some .returned => pure ()
      | some interrupt => throw interrupt
    | .error _ => Run.fail s!".: cannot open {path}: No such file"

/-- The special commands: a mistake in one of them ends the script. -/
def specialNames : List String :=
  [".", ":", "break", "continue", "eval", "exec", "exit", "export", "readonly", "return", "set",
    "shift", "times", "trap", "unset", "local"]

/-- The commands by name. -/
def table : List (String × Builtin) :=
  [ (":", succeed), ("true", succeed), ("false", fun _ _ => Run.setCode 1),
    ("echo", echo), ("printf", printf), ("test", test "test"), ("[", test "["),
    ("exit", exit), ("return", leave), ("break", breakLoops), ("continue", continueLoops),
    ("cd", changeDirectory), ("chdir", changeDirectory), ("pwd", printDirectory),
    ("shift", shift), ("set", set), ("unset", unset), ("export", exportNames),
    ("readonly", readonly), ("local", makeLocal), ("read", read), ("kill", kill),
    ("trap", trap), ("getopts", getOption), ("eval", evaluate), (".", sourceFile),
    ("wait", wait), ("umask", setMask), ("ulimit", limit), ("hash", hashNames), ("jobs", jobs),
    ("fg", resume "fg"), ("bg", resume "bg"), ("alias", aliasNames), ("unalias", unaliasNames),
    ("times", fun _ _ =>
      printing (utf8 "0m0.000000s 0m0.000000s\n0m0.000000s 0m0.000000s\n")) ]

/-- Words that cannot be the names of commands. -/
def reservedWords : List String :=
  ["!", "\x7b", "\x7d", "case", "do", "done", "elif", "else", "esac", "fi", "for", "if", "in",
    "then", "until", "while"]

/-- What a name stands for, in one word or as a command. -/
def describe (machinery : Machinery) (state : Interpreter) (name : String) : Option String :=
  match state.aliases.lookup name with
  | some value => some s!"alias {name}={quotedText value}"
  | none =>
    if reservedWords.contains name || (state.functions.lookup name).isSome ||
        (table.lookup name).isSome || ["exec", "command", "type"].contains name then some name
    else machinery.system.find state.bindings state.files name

/-- Tell what a name stands for. -/
def tellAbout (machinery : Machinery) (name : String) : Run Unit := do
  let state ← get
  let say (text : String) : Run Unit := do
    let _ ← Run.print (utf8 s!"{name}{text}\n")
  match state.aliases.lookup name, describe machinery state name with
  | some value, _ => say s!" is an alias for {value}"
  | none, none => do
    say ": not found"
    Run.setCode 127
  | none, some path =>
    if reservedWords.contains name then say " is a shell keyword"
    else if (state.functions.lookup name).isSome then say " is a shell function"
    else if specialNames.contains name then say " is a special shell builtin"
    else if path = name && !name.contains '/' then say " is a shell builtin"
    else do
      let mark := if state.found.contains name then "a tracked alias for " else ""
      say s!" is {mark}{path}"
      modify fun state => state.remember name

/-- Tell what names stand for. -/
def typeOf : Builtin := fun machinery args => do
  Run.setCode 0
  args.forM (tellAbout machinery)

/-- The command of a name. -/
def find? (name : String) : Option Builtin :=
  if name = "type" then some typeOf else table.lookup name

end Builtin

end CommandShell.Programs.Script
