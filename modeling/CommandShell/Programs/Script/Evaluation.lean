import CommandShell.Programs.Script.Builtin
import CommandShell.Programs.Script.Reader
import CommandShell.Programs.Script.Redirection

/-!
# Evaluation of Commands

How an interpreter runs commands: it expands their words, lets their redirections hold, and calls
functions, its own commands or programs. A command that fails ends the script if the option for
that is set, unless its result is tested. How deep commands may call each other is bounded, and so
is the number of rounds of a loop.
-/

namespace CommandShell.Programs.Script

namespace Evaluation

/-- Run the lines of a text one after the other with the means to run commands; `fuel` bounds
their number. -/
def runLines (all : List Command → Run Unit) : (fuel : Nat) → (line : Nat) → List Char → Run Unit
  | 0, _, _ => pure ()
  | fuel + 1, line, text => do
    let start := skipLines text.length text
    let line := line + (text.count '\n' - start.count '\n')
    modify fun state => { state with line }
    match readLine start with
    | none => Run.fail "Syntax error"
    | some ([], _) => pure ()
    | some (commands, rest) => do
      all commands
      runLines all fuel (line + (start.count '\n' - rest.count '\n')) rest

/-- Run a text within a script: its lines count as the one that it stands in. -/
def runText (all : List Command → Run Unit) (text : String) : Run Unit := do
  let line := (← get).line
  runLines all (text.length + 1) line text.toList
  modify fun state => { state with line }

/-- Run something to its end, and then what is set for the end of the script. -/
def finishing (source : String → Run Unit) (body : Run Unit) : Run Unit := do
  let interrupt ← Run.attempt body
  let state ← get
  let end? : Option Interrupt → UInt8 → Interrupt
    | some (.ended code), _ => .ended code
    | some (.killed signal), _ => .killed signal
    | some .failed, _ => .ended Run.mistakeCode
    | _, code => .ended code
  match end? interrupt state.lastCode, state.traps.lookup "EXIT" with
  | .ended code, some action => do
    set { state with traps := [], lastCode := code, loops := 0 }
    throw (end? (← Run.attempt (source action)) code)
  | interrupt, _ => throw interrupt

/-- The most rounds of a loop: one that goes on longer is taken to have lost its reader. -/
def mostRounds : Nat := 65536

/-- Go through rounds as long as they say that there is another one. -/
def goThrough : (rounds : Nat) → Run Bool → Run Unit
  | 0, _ => throw (.ofSignal 13)
  | rounds + 1, round => do
    if ← round then goThrough rounds round

/-- Run a round of a loop: whether the loop goes on after it. -/
def runRound (body : Run Unit) : Run Bool := do
  match ← Run.attempt body with
  | none => return true
  | some (.broken levels) => if levels > 1 then throw (.broken (levels - 1)) else return false
  | some (.continued levels) => if levels > 1 then throw (.continued (levels - 1)) else return true
  | some interrupt => throw interrupt

/-- Run something as a loop. -/
def inLoop (body : Run Unit) : Run Unit := do
  modify fun state => { state with loops := state.loops + 1 }
  let interrupt ← Run.attempt body
  modify fun state => { state with loops := state.loops - 1 }
  match interrupt with
  | some interrupt => throw interrupt
  | none => pure ()

/-- Run rounds of a loop as long as a test succeeds, or fails if `untilGood` is set. The loop ends
with the code of the last round. -/
def runLoop (untilGood : Bool) (test body : Run Unit) : Run Unit := inLoop do
  Run.setCode 0
  goThrough mostRounds do
    let before := (← get).lastCode
    runRound do
      test
      if ((← get).lastCode = 0) = untilGood then do
        Run.setCode before
        throw (.broken 1)
      body

/-- Run rounds of a loop for each of some values. -/
def runEach (name : String) (body : Run Unit) : List String → Run Unit
  | [] => pure ()
  | value :: rest => do
    Run.assign name value
    if ← runRound body then runEach name body rest

/-- Run commands in a subshell: the code they end with. -/
def runSubshell (source : String → Run Unit) (body : Run Unit) : Run UInt8 :=
  Run.isolated (finishing source body)

/-- Run the stages of a pipeline in subshells: the code of the last one. -/
def runStages (run : Command → Run UInt8) : List Command → Run UInt8
  | [] => return 0
  | [last] => run last
  | stage :: rest => do
    let descriptors := (← get).descriptors
    let sink ← Run.newSink
    Run.connect 1 (some (.sink sink))
    let _ ← run stage
    modify fun state => { state with descriptors }
    let source ← Run.newSource (← Run.takeSink sink) false
    Run.connect 0 (some (.source source))
    runStages run rest

/-- Run the first branch of a choice that fits. -/
def runChoice (machinery : Machinery) (all : List Command → Run Unit) (value : String) :
    List Branch → Run Unit
  | [] => Run.setCode 0
  | .mk patterns body :: rest => do
    let isFitting ← patterns.anyM fun pattern => do
      return fits (← patternOf machinery.run pattern) value.toList
    if !isFitting then runChoice machinery all value rest
    else if body.isEmpty then Run.setCode 0
    else all body

/-- Run a function with arguments of its own. -/
def callFunction (body : Run Unit) (arguments : List String) : Run Unit := do
  let before ← get
  set { before with
    arguments, locals := [] :: before.locals, loops := 0, optionIndex := 1, optionRest := [] }
  let interrupt ← Run.attempt body
  let after ← get
  let restored := (after.locals.headD []).foldl (fun state (name, old) => state.put name old) after
  set { restored with
    arguments := before.arguments, locals := before.locals, loops := before.loops
    optionIndex := before.optionIndex, optionRest := before.optionRest }
  match interrupt with
  | none | some .returned => pure ()
  | some interrupt => throw interrupt

/-- The name and the word of an assignment. -/
def partsOf : Assignment → String × Word
  | .mk name value => (name, value)

/-- Make assignments: how they read with their values. -/
def assignAll (run : List Command → Run Unit) (assignments : List Assignment) :
    Run (List String) :=
  (assignments.map partsOf).mapM fun (name, word) => do
    let value ← valueOf run word
    Run.assign name value
    return s!"{name}={value}"

/-- Run something with assignments that hold no longer than it runs, and that programs know of. -/
def withAssignments (run : List Command → Run Unit) (assignments : List Assignment)
    (body : List String → Run Unit) : Run Unit := do
  if assignments.isEmpty then body []
  else
    let before ← get
    let names := assignments.map fun assignment => (partsOf assignment).1
    let shown ← assignAll run assignments
    modify fun state => { state with exported := names ++ state.exported }
    let interrupt ← Run.attempt (body shown)
    modify fun state =>
      let restored := names.foldl (fun state name => state.put name (before.binding? name)) state
      let others := restored.exported.filter fun name =>
        !names.contains name || before.exported.contains name
      { restored with exported := others ++ names.filter before.exported.contains }
    match interrupt with
    | some interrupt => throw interrupt
    | none => pure ()

/-- Commands whose arguments may be assignments, which are not split. -/
def declarations : List String := ["export", "readonly", "local"]

/-- Expand the words of a command; `texts` are those that it has so far. -/
def expandWords (run : List Command → Run Unit) : (texts : List String) → List Word →
    Run (List String)
  | texts, [] => return texts
  | texts, word :: rest => do
    let declares := (texts.find? (· != "command")).any declarations.contains
    let more ← match declares, assignment? word with
      | true, some assignment => do
        let (name, value) := partsOf assignment
        pure [s!"{name}={← valueOf run value}"]
      | _, _ => textsOf run word
    expandWords run (texts ++ more) rest

/-- The code of a program that cannot be started, and what is complained. -/
def launchRefusal (name : String) : Failure → UInt8 × String
  | .system .noEntry | .system .notDirectory =>
    (127, if name.isEmpty then SystemFault.description .accessDenied else "not found")
  | failure => (126, failure.description)

/-- Take over what a program leaves behind. -/
def takeOver (source : Option Nat) (product : Product) : Run Unit := do
  modify fun state =>
    { state with
      files := { product.files with workingDirectory := state.files.workingDirectory } }
  let _ ← Run.write 2 product.complaints
  let isGood ← Run.write 1 product.output
  match source with
  | some number => Run.leave number product.unread
  | none => pure ()
  match product.status with
  | .code code => Run.setCode (if isGood || code != 0 then code else 1)
  | .signal number => Run.setCode (UInt8.ofNat (128 + number.val))

/-- Call a program; whether it could be started. A file that is no program is run as a script. -/
def callProgram (system : System) (name : String) (args : List String) :
    Run (Option Failure) := do
  let state ← get
  let input ← Run.input? 0
  let call : Call :=
    { name, args, input := (input.map (·.2)).getD []
      inputSize := input.bind fun (source, _) => state.fileSizes.lookup source
      bindings := state.environment, files := state.files
      joined := state.descriptors.lookup 1 = state.descriptors.lookup 2 }
  let asScript : Call :=
    let path := (system.find call.bindings call.files name).getD name
    { call with name := "/bin/sh", args := path :: args }
  let result := match system.launch call with
    | .error (.system .notAProgram) => system.launch asScript
    | result => result
  match result with
  | .ok product => do
    modify fun state => state.remember name
    takeOver (input.map (·.1)) product
    return none
  | .error failure => return some failure

/-- How a command is called. -/
structure Calling where
  /-- The options of the word that keeps functions from being called. -/
  options : List Char
  /-- That word is there. -/
  isPlain : Bool
  /-- The name of the command and its arguments. -/
  texts : List String

/-- Read the words `command` before a command with their options; what is refused is an option
that is not known. `fuel` bounds their number. -/
def Calling.read : (fuel : Nat) → List String → Except Char Calling
  | fuel + 1, "command" :: rest => do
    let (options, texts) ← Builtin.splitOptions ['p', 'v', 'V'] rest
    if options.contains 'v' || options.contains 'V' then return ⟨options, true, texts⟩
    else return { (← Calling.read fuel texts) with isPlain := true }
  | _, texts => .ok ⟨[], false, texts⟩

/-- Say what a name stands for, in one word or as a command. -/
def tellName (machinery : Machinery) (name : String) : Run Unit := do
  match Builtin.describe machinery (← get) name with
  | some text => do
    let _ ← Run.print (utf8 (text ++ "\n"))
    modify fun state => state.remember name
    Run.setCode 0
  | none => Run.setCode 127

/-- Replace the interpreter by a program, or, without one, let redirections hold from now on. -/
def replaceBy (machinery : Machinery) (args : List String) : Run Unit := do
  match args with
  | [] => Run.setCode 0
  | name :: args => do
    modify fun state => { state with traps := [] }
    match ← callProgram machinery.system name args with
    | none => throw (.ended (← get).lastCode)
    | some failure => do
      let (code, text) := launchRefusal name failure
      Run.complain s!"exec: {name}: {text}"
      throw (.ended code)

/-- Run a command of the interpreter that is not special: a mistake in it is no more than a
failure. -/
def absorbing (body : Run Unit) : Run Unit := do
  match ← Run.attempt body with
  | none => pure ()
  | some .failed => Run.setCode Run.mistakeCode
  | some interrupt => throw interrupt

/-- Run what a name stands for with arguments; `plain` keeps functions from being called, and
`call` runs the body of a function. -/
def runNamed (machinery : Machinery) (call : Command → Run Unit) (plain : Bool) (name : String)
    (args : List String) : Run Unit := do
  let state ← get
  match if plain then none else state.functions.lookup name, Builtin.find? name with
  | some body, _ => callFunction (call body) args
  | none, some builtin => absorbing (builtin machinery args)
  | none, none =>
    match ← callProgram machinery.system name args with
    | none => pure ()
    | some failure => do
      let (code, text) := launchRefusal name failure
      Run.complain s!"{name}: {text}"
      Run.setCode code

/-- Show a command before it is run, if the option for that is set. -/
def trace (texts : List String) : Run Unit := do
  let state ← get
  if state.has 'x' && !texts.isEmpty then
    let sign := (state.binding? "PS4").getD "+ "
    let shown := " ".intercalate texts
    let _ ← Run.write 2 (utf8 s!"{sign}{shown}\n")

/-- Run a simple command. -/
def runSimple (machinery : Machinery) (call : Command → Run Unit) (assignments : List Assignment)
    (words : List Word) (redirections : List Redirection) : Run Unit := do
  modify fun state => { state with captured := none }
  let texts ← expandWords machinery.run [] words
  let redirected (body : Run Unit) : Run Unit := do
    if ← Redirection.carryOutAll machinery.run redirections then body
    else Run.setCode Run.mistakeCode
  match Calling.read texts.length texts with
  | .error letter => Run.keepingDescriptors do
    redirected (Builtin.refuse Run.mistakeCode s!"command: Illegal option -{letter}")
  | .ok ⟨_, _, []⟩ => Run.keepingDescriptors do
    redirected do
      trace (← assignAll machinery.run assignments)
      Run.setCode (((← get).captured).getD 0)
  | .ok ⟨options, plain, name :: args⟩ =>
    if options.contains 'V' then Run.keepingDescriptors do
      redirected do
        Run.setCode 0
        Builtin.tellAbout machinery name
    else if options.contains 'v' then Run.keepingDescriptors do
      redirected (tellName machinery name)
    else if name = "exec" then do
      if ← Redirection.carryOutAll machinery.run redirections then do
        trace ((← assignAll machinery.run assignments) ++ name :: args)
        replaceBy machinery args
      else throw .failed
    else
      match plain, Builtin.specialNames.contains name, Builtin.find? name with
      | false, true, some builtin => Run.keepingDescriptors do
        if ← Redirection.carryOutAll machinery.run redirections then do
          trace ((← assignAll machinery.run assignments) ++ name :: args)
          builtin machinery args
        else throw .failed
      | _, _, _ => Run.keepingDescriptors do
        redirected do
          withAssignments machinery.run assignments fun shown => do
            trace (shown ++ name :: args)
            runNamed machinery call plain name args

/-- End the script after a failure, if the option for that is set and the result is not tested. -/
def insistOnSuccess (tested : Bool) : Run Unit := do
  let state ← get
  if !tested && state.has 'e' && state.lastCode != 0 then throw (.ended state.lastCode)

/-- Run a command; `tested` tells that its result is tested, and `fuel` bounds how deep commands
may stand in and call each other. -/
def execute (system : System) : (fuel : Nat) → (tested : Bool) → Command → Run Unit
  | 0, _, _ => throw (.ofSignal 11)
  | fuel + 1, tested, command => do
    let all (tested : Bool) (body : List Command) : Run Unit :=
      body.forM (execute system fuel tested)
    let source := runText (all tested)
    let machinery : Machinery := ⟨system, fun body => finishing source (all false body), source⟩
    let inSubshell (body : Run Unit) : Run UInt8 := runSubshell source body
    if (← get).has 'n' then pure ()
    else
      match command with
      | .simple assignments words redirections => do
        runSimple machinery (execute system fuel tested) assignments words redirections
        insistOnSuccess tested
      | .pipeline negated stages => do
        match stages with
        | [only] => execute system fuel (tested || negated) only
        | _ => do
          Run.keepingDescriptors do
            Run.setCode (← runStages (fun stage => inSubshell (all tested [stage])) stages)
        if negated then Run.setCode (if (← get).lastCode = 0 then 1 else 0)
        else insistOnSuccess tested
      | .both first second => do
        execute system fuel true first
        if (← get).lastCode = 0 then execute system fuel tested second
      | .either first second => do
        execute system fuel true first
        if (← get).lastCode != 0 then execute system fuel tested second
      | .background body => do
        Run.keepingDescriptors do
          Run.connect 0 (some (.source (← Run.newSource [] false)))
          let code ← inSubshell (execute system fuel tested body)
          modify fun state =>
            let number := Interpreter.ownProcess + 1 + state.jobs.length
            { state with jobs := (number, code) :: state.jobs }
        Run.setCode 0
      | .group body => all tested body
      | .subshell body => do
        Run.setCode (← inSubshell (all tested body))
        insistOnSuccess tested
      | .conditional test body otherwise => do
        all true test
        if (← get).lastCode = 0 then all tested body
        else if otherwise.isEmpty then Run.setCode 0
        else all tested otherwise
      | .loop untilGood test body => runLoop untilGood (all true test) (all tested body)
      | .each name overArguments words body => do
        let values ←
          if overArguments then do pure (← get).arguments
          else do pure (← words.mapM (textsOf machinery.run)).flatten
        if values.isEmpty then Run.setCode 0
        inLoop (runEach name (all tested body) values)
      | .choose word branches => do
        runChoice machinery (all tested) (← textOf machinery.run word) branches
      | .define name body => do
        modify fun state =>
          let others := state.functions.filter (·.1 != name)
          { state with functions := (name, body) :: others, lastCode := 0 }
      | .redirected body redirections => do
        Run.keepingDescriptors do
          if ← Redirection.carryOutAll machinery.run redirections then
            execute system fuel tested body
          else Run.setCode Run.mistakeCode

/-- How deep commands may stand in and call each other. -/
def depth : Nat := 4000

/-- Run a script to its end: how it ends, and the interpreter after it. -/
def runScript (system : System) (script : String) (interpreter : Interpreter) :
    ExitStatus × Interpreter :=
  let all (body : List Command) : Run Unit := body.forM (execute system depth false)
  let body := finishing (runText all) (runLines all (script.length + 1) 1 script.toList)
  match Id.run (StateT.run (ExceptT.run body) interpreter) with
  | (.error (.killed signal), after) => (.signal signal, after)
  | (.error (.ended code), after) => (.code code, after)
  | (_, after) => (.code after.lastCode, after)

end Evaluation

end CommandShell.Programs.Script
