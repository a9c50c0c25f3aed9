import CommandShell.Programs.Utility.Output

/-!
# Programs That Call Programs

Programs that call another one that their arguments name: with other process variables (`env`),
with arguments that they read (`xargs`), or under some condition that is not modelled (`nohup`,
`nice`, `timeout`).
-/

namespace CommandShell.Programs

/-- The code with which a program ends that cannot start another one. -/
def launchCode : Failure → UInt8
  | .system .noEntry | .system .notDirectory => 127
  | _ => 126

namespace Call

/-- Call another program with the same input; what it leaves behind is what is left behind. -/
def passOn (call : Call) (launch : Launch) (name : String) (args : List String)
    (bindings : List (String × String)) (refusal : String → String) : Product :=
  match launch { call with name, args, bindings } with
  | .ok product => product
  | .error failure =>
    call.refused (launchCode failure) s!"{refusal (quoted name)}: {failure.description}"

end Call

/-- Assignments at the beginning of some arguments, and the other arguments. -/
def splitAssignments : List String → List (String × String) × List String
  | [] => ([], [])
  | arg :: rest =>
    let name := arg.toList.takeWhile (· != '=')
    match arg.toList.drop name.length with
    | [] => ([], arg :: rest)
    | _ :: value =>
      let (others, rest) := splitAssignments rest
      ((String.ofList name, String.ofList value) :: others, rest)

/-- Set a variable where it stands, or at the end. -/
def withVariable (bindings : List (String × String)) (name value : String) :
    List (String × String) :=
  if (bindings.lookup name).isSome then
    bindings.map fun binding => if binding.1 = name then (name, value) else binding
  else bindings ++ [(name, value)]

/-- Call a program with other process variables, or show them. -/
def env (launch : Launch) : Utility := fun call =>
  let flags := flagsOf "i0v" "uCS"
    [('i', "ignore-environment"), ('u', "unset"), ('0', "null"), ('C', "chdir")]
  let (leading, call) := match call.args with
    | "-" :: rest => (true, { call with args := rest })
    | _ => (false, call)
  match Arguments.readLeading flags call.args with
  | .error text => call.misused 125 text
  | .ok arguments =>
    let kept := if arguments.has 'i' || leading then [] else call.bindings
    let kept := kept.filter fun (name, _) => !(arguments.values 'u').contains name
    let (assignments, command) := splitAssignments arguments.operands
    let bindings := assignments.foldl (fun bindings (name, value) =>
      withVariable bindings name value) kept
    let words := (arguments.values 'S').flatMap fun text =>
      (text.splitOn " ").filter (!·.isEmpty)
    match words ++ command with
    | [] =>
      let ending := if arguments.has '0' then "\x00" else "\n"
      call.success (utf8 (String.join (bindings.map fun (name, value) =>
        s!"{name}={value}{ending}")))
    | name :: args =>
      let directory := match arguments.value? 'C' with
        | some path => call.files.locate path
        | none => .ok call.files.workingDirectory
      match directory with
      | .error failure =>
        let path := (arguments.value? 'C').getD ""
        call.refused 125 s!"cannot change directory to {quoted path}: {failure.description}"
      | .ok place =>
        let inside := { call with files := { call.files with workingDirectory := place } }
        let product := inside.passOn launch name args bindings id
        { product with
          files := { product.files with workingDirectory := call.files.workingDirectory } }

/-- The words that `xargs` reads: quotes and backslashes protect blanks. `current` is the word being
put together, last character first. -/
def readWords : (fuel : Nat) → (current : Option (List Char)) → List Char → Option (List String)
  | 0, _, _ => none
  | _, current, [] => some (current.toList.map fun word => String.ofList word.reverse)
  | fuel + 1, current, c :: rest =>
    let word := current.getD []
    if c = ' ' || c = '\t' || c = '\n' then
      (readWords fuel none rest).map fun others =>
        current.toList.map (fun word => String.ofList word.reverse) ++ others
    else if c = '\'' || c = '"' then
      let inner := rest.takeWhile fun d => d != c && d != '\n'
      match rest.drop inner.length with
      | d :: rest => if d = c then readWords fuel (some (inner.reverse ++ word)) rest else none
      | [] => none
    else
      match c, rest with
      | '\\', d :: rest => readWords fuel (some (d :: word)) rest
      | '\\', [] => readWords fuel current []
      | _, _ => readWords fuel (some (c :: word)) rest

/-- How `xargs` calls a program. -/
structure Batching where
  /-- The program and its first arguments. -/
  command : List String
  /-- The text that each word is put in for, if one is given. -/
  placeholder : Option String
  /-- Commands are shown before they are run. -/
  traced : Bool
  deriving DecidableEq, Repr

/-- The arguments of a call for some words. -/
def Batching.argsFor (batching : Batching) (words : List String) : List String :=
  match batching.placeholder with
  | some text =>
    let line := " ".intercalate words
    batching.command.map fun arg => if arg.contains text then arg.replace text line else arg
  | none => batching.command ++ words

/-- Call a program for one batch after the other. -/
def runBatches (launch : Launch) (call : Call) (batching : Batching) : (product : Product) →
    List (List String) → Product
  | product, [] => product
  | product, words :: rest =>
    match batching.argsFor words with
    | [] => product
    | name :: args =>
      let inner : Call :=
        { call with name, args, input := [], inputSize := none, files := product.files }
      let traced := if batching.traced then utf8 (" ".intercalate (name :: args) ++ "\n") else []
      match launch inner with
      | .error failure =>
        { product with
          status := .code (launchCode failure)
          complaints := product.complaints ++ traced ++
            call.complaint s!"{name}: {failure.description}" }
      | .ok one =>
        let both : Product :=
          { one with
            output := product.output ++ one.output
            complaints := product.complaints ++ traced ++ one.complaints
            status := product.status, unread := [] }
        match one.status with
        | .code 0 => runBatches launch call batching both rest
        | .code 255 =>
          { both with
            status := .code 124
            complaints := both.complaints ++
              call.complaint s!"{name}: exited with status 255; aborting" }
        | .code _ => runBatches launch call batching { both with status := .code 123 } rest
        | .signal number =>
          { both with
            status := .code 125
            complaints := both.complaints ++
              call.complaint s!"{name}: terminated by signal {number.val}" }

/-- Some words as batches of so many. -/
def batches (size : Nat) : (fuel : Nat) → List String → List (List String)
  | 0, _ => []
  | fuel + 1, words =>
    if words.isEmpty then [] else words.take size :: batches size fuel (words.drop size)

/-- Call a program with arguments that are read from the input. -/
def xargs (launch : Launch) : Utility := fun call =>
  let flags := flagsOf "0rtpx" "nILdPsaE"
    [('0', "null"), ('r', "no-run-if-empty"), ('t', "verbose"), ('n', "max-args"),
      ('I', "replace"), ('L', "max-lines"), ('d', "delimiter"), ('P', "max-procs"),
      ('s', "max-chars"), ('a', "arg-file"), ('x', "exit")]
  match Arguments.readLeading flags call.args with
  | .error text => call.misused 1 text
  | .ok arguments =>
    let data := match arguments.value? 'a' with
      | some path => (contentsOf call.files path).toOption.getD []
      | none => call.input
    let text := lossyText data
    let placeholder := arguments.value? 'I'
    let lines := (linesOf data).map lossyText
    let separated (separator : Char) : List String :=
      let parts := (text.split fun c => c = separator).toList.map (·.toString)
      if parts.getLast? = some "" then parts.dropLast else parts
    let delimiter : Option Char :=
      if arguments.has '0' then some '\x00'
      else
        match (arguments.value? 'd').map (·.toList) with
        | some ['\\', 'n'] => some '\n'
        | some ['\\', 't'] => some '\t'
        | some ['\\', '0'] => some '\x00'
        | some (c :: _) => some c
        | _ => none
    let words? : Option (List String) :=
      match delimiter, placeholder with
      | some separator, _ => some (separated separator)
      | none, some _ =>
        some ((lines.map fun line => (line.trimAsciiStart).toString).filter (!·.isEmpty))
      | none, none => readWords (text.length + 1) none text.toList
    let command := if arguments.operands.isEmpty then ["echo"] else arguments.operands
    let batching : Batching := ⟨command, placeholder, arguments.has 't'⟩
    match words?, ((arguments.value? 'n').or (arguments.value? 'L')).map (·.toNat?) with
    | none, _ => (call.refused 1 "unmatched quote").exhausted
    | some _, some none | some _, some (some 0) => call.misused 1 "invalid number"
    | some words, count =>
      let byLines := (arguments.value? 'L').isSome && delimiter.isNone
      let grouped :=
        if placeholder.isSome then words.map ([·])
        else
          match count.bind id with
          | some size =>
            if byLines then
              (batches size (lines.length + 1) (lines.filter (!·.isEmpty))).map fun group =>
                group.flatMap fun line => (readWords (line.length + 1) none line.toList).getD []
            else batches size (words.length + 1) words
          | none => [words]
      let grouped := if words.isEmpty then
          if arguments.has 'r' || placeholder.isSome then [] else [[]]
        else grouped
      (runBatches launch call batching (call.success []) grouped).exhausted

/-- The number of seconds that a duration stands for, in thousandths. -/
def thousandths (text : String) : Nat :=
  let chars := text.toList
  let (body, factor) := match chars.getLast? with
    | some 'm' => (chars.dropLast, 60)
    | some 'h' => (chars.dropLast, 3600)
    | some 'd' => (chars.dropLast, 86400)
    | some 's' => (chars.dropLast, 1)
    | _ => (chars, 1)
  let value (digits : List Char) : Nat :=
    digits.foldl (fun n c => n * 10 + (c.toNat - '0'.toNat)) 0
  let whole := body.takeWhile (· != '.')
  let part := ((body.drop (whole.length + 1)) ++ ['0', '0', '0']).take 3
  (value whole * 1000 + value part) * factor

/-- Call a program and end it after some time, which only waiting can take up. -/
def timeout (launch : Launch) : Utility := fun call =>
  let flags := flagsOf "vfp" "sk"
    [('s', "signal"), ('k', "kill-after"), ('f', "foreground"), ('p', "preserve-status"),
      ('v', "verbose")]
  match Arguments.readLeading flags call.args with
  | .error text => call.misused 125 text
  | .ok arguments =>
    match arguments.operands with
    | [] => call.lacking 125
    | [only] =>
      if isDuration only then call.lacking 125
      else call.misused 125 s!"invalid time interval {quoted only}"
    | duration :: name :: args =>
      let limit := thousandths duration
      let isLate := baseOfName name = "sleep" && limit != 0 &&
        (args.map thousandths).foldl (· + ·) 0 > limit
      if !isDuration duration then call.misused 125 s!"invalid time interval {quoted duration}"
      else if isLate then call.ended 124 []
      else
        call.passOn launch name args call.bindings fun name => s!"failed to run command {name}"
where
  /-- The last part of a path. -/
  baseOfName (name : String) : String := ((Files.parts name).getLast?).getD name

/-- Call a program that does not end with the session. -/
def nohup (launch : Launch) : Utility := fun call =>
  match if call.args.head? = some "--" then call.args.tail else call.args with
  | [] => call.lacking 125
  | name :: args =>
    call.passOn launch name args call.bindings fun name => s!"failed to run command {name}"

/-- Call a program that gets less of the machine. -/
def nice (launch : Launch) : Utility := fun call =>
  match Arguments.readLeading (flagsOf "" "n" [('n', "adjustment")]) call.args with
  | .error text => call.misused 125 text
  | .ok arguments =>
    match arguments.operands with
    | [] => call.success (utf8 "0\n")
    | name :: args => call.passOn launch name args call.bindings id

/-- Call a program that its arguments name, with options before it that have no effect. -/
def plainly (valued : String) (launch : Launch) : Utility := fun call =>
  match Arguments.readLeading (flagsOf "cfwvl" valued []) call.args with
  | .error text => call.misused 125 text
  | .ok arguments =>
    match arguments.operands with
    | [] => call.lacking 125
    | name :: args =>
      call.passOn launch name args call.bindings fun name => s!"failed to execute {name}"

end CommandShell.Programs
