import CommandShell.Programs.Script.Glob
import CommandShell.Programs.Utility.Names

/-!
# Finding Files

The program `find`, which goes through directories and looks at each entry with tests. A test can
also do something: print the path of the entry, call a program for it, or take it away.
-/

namespace CommandShell.Programs

/-- A test on an entry. -/
inductive EntryTest where
  /-- It succeeds. -/
  | always
  /-- The name fits a pattern. -/
  | name (folds : Bool) (pattern : List Script.Wild)
  /-- The path fits a pattern. -/
  | path (pattern : List Script.Wild)
  /-- The entry is a directory, or a file. -/
  | kind (isDirectory : Bool)
  /-- Nothing is in the file or directory. -/
  | empty
  /-- The test fails. -/
  | not (test : EntryTest)
  /-- Both tests succeed; the second one is done only then. -/
  | both (first second : EntryTest)
  /-- One of the tests succeeds; the second one is done only if the first one does not. -/
  | either (first second : EntryTest)
  /-- Print the path with something after it. -/
  | print (ending : UInt8)
  /-- Call a program with the path for braces. -/
  | call (command : List String)
  /-- Do not go into the directory. -/
  | prune
  /-- Take the entry away. -/
  | delete

/-- The test does something by itself. -/
def EntryTest.acts : EntryTest → Bool
  | .print _ | .call _ | .delete => true
  | .not test => test.acts
  | .both first second | .either first second => first.acts || second.acts
  | _ => false

/-- The pattern that a text is. -/
def patternOf (text : String) : List Script.Wild :=
  Script.wildOf (text.toList.map (⟨·, false⟩))

/-- The arguments between a program that is called and the sign that ends them. -/
def splitCommand (args : List String) : List String × List String :=
  let command := args.takeWhile fun arg => arg != ";" && arg != "+"
  (command, args.drop (command.length + 1))

mutual

/-- Read a test and what is left of the arguments, or tell what is wrong. -/
def readTest : (fuel : Nat) → List String → Except String (EntryTest × List String)
  | 0, _ => .error "too many arguments"
  | fuel + 1, args => do
    let (first, rest) ← readTests fuel args
    match rest with
    | "-o" :: rest | "-or" :: rest => do
      let (second, rest) ← readTest fuel rest
      return (.either first second, rest)
    | _ => return (first, rest)

/-- Read tests that must succeed together. -/
def readTests : (fuel : Nat) → List String → Except String (EntryTest × List String)
  | 0, _ => .error "too many arguments"
  | fuel + 1, args => do
    let (first, rest) ← readOneTest fuel args
    match rest with
    | [] | "-o" :: _ | "-or" :: _ | ")" :: _ => return (first, rest)
    | "-a" :: rest | "-and" :: rest | rest => do
      let (second, rest) ← readTests fuel rest
      return (.both first second, rest)

/-- Read a single test. -/
def readOneTest : (fuel : Nat) → List String → Except String (EntryTest × List String)
  | 0, _ => .error "too many arguments"
  | fuel + 1, args =>
    match args with
    | "!" :: rest | "-not" :: rest => do
      let (test, rest) ← readOneTest fuel rest
      return (.not test, rest)
    | "(" :: rest => do
      let (test, rest) ← readTest fuel rest
      match rest with
      | ")" :: rest => return (test, rest)
      | _ => .error "expected a parenthesis that ends the expression"
    | "-true" :: rest => .ok (.always, rest)
    | "-false" :: rest => .ok (.not .always, rest)
    | "-empty" :: rest => .ok (.empty, rest)
    | "-prune" :: rest => .ok (.prune, rest)
    | "-delete" :: rest => .ok (.delete, rest)
    | "-print" :: rest => .ok (.print Input.newline, rest)
    | "-print0" :: rest => .ok (.print 0, rest)
    | "-name" :: pattern :: rest => .ok (.name false (patternOf pattern), rest)
    | "-iname" :: pattern :: rest => .ok (.name true (patternOf pattern.toLower), rest)
    | "-path" :: pattern :: rest | "-wholename" :: pattern :: rest =>
      .ok (.path (patternOf pattern), rest)
    | "-type" :: "f" :: rest => .ok (.kind false, rest)
    | "-type" :: "d" :: rest => .ok (.kind true, rest)
    | "-type" :: "l" :: rest => .ok (.not .always, rest)
    | "-type" :: kind :: _ => .error s!"Unknown argument to -type: {kind}"
    | "-exec" :: rest => let (command, rest) := splitCommand rest; .ok (.call command, rest)
    | option :: _ =>
      if ["-name", "-iname", "-path", "-wholename", "-type"].contains option then
        .error s!"missing argument to \x60{option}'"
      else .error s!"unknown predicate \x60{option}'"
    | [] => .error "invalid expression; expected an operand"

end

/-- What has been found so far. -/
structure Walk where
  /-- What has been written. -/
  output : Bytes
  /-- What has been complained about. -/
  complaints : Bytes
  /-- The files. -/
  files : Files
  /-- The directory is not gone into. -/
  pruned : Bool

/-- Do a test on an entry, which has a path and a place. -/
def EntryTest.apply (call : Call) (launch : Launch) (path : String) (place : Place) :
    EntryTest → Walk → Bool × Walk
  | .always, walk => (true, walk)
  | .name folds pattern, walk =>
    let name := baseOf path
    (Script.fits pattern (if folds then name.toLower else name).toList, walk)
  | .path pattern, walk => (Script.fits pattern path.toList, walk)
  | .kind isDirectory, walk =>
    ((walk.files.entryAt? place == some .directory) == isDirectory, walk)
  | .empty, walk =>
    let isEmpty := match walk.files.entryAt? place with
      | some (.file data _) => data.isEmpty
      | _ => (walk.files.names place).isEmpty
    (isEmpty, walk)
  | .not test, walk =>
    let (result, walk) := test.apply call launch path place walk
    (!result, walk)
  | .both first second, walk =>
    let (result, walk) := first.apply call launch path place walk
    if result then second.apply call launch path place walk else (false, walk)
  | .either first second, walk =>
    let (result, walk) := first.apply call launch path place walk
    if result then (true, walk) else second.apply call launch path place walk
  | .print ending, walk => (true, { walk with output := walk.output ++ utf8 path ++ [ending] })
  | .prune, walk => (true, { walk with pruned := true })
  | .delete, walk => (true, { walk with files := walk.files.remove place })
  | .call command, walk =>
    let words := command.map (·.replace "\x7b\x7d" path)
    let started := { call with
      name := words.headD "", args := words.tail, input := [], inputSize := none
      files := walk.files }
    match launch started with
    | .ok product =>
      (product.status = .code 0, { walk with
        output := walk.output ++ product.output
        complaints := walk.complaints ++ product.complaints
        files := product.files })
    | .error failure =>
      let text := s!"{quoted started.name}: {failure.description}"
      (false, { walk with complaints := walk.complaints ++ call.complaint text })

/-- Go through an entry and, if it is a directory, what is in it; `fuel` bounds how deep that is,
and tests are done from `least` levels below on. -/
def EntryTest.visit (test : EntryTest) (call : Call) (launch : Launch) :
    (fuel least : Nat) → (route : String) → Place → Walk → Walk
  | 0, _, _, _, walk => walk
  | fuel + 1, least, route, place, walk =>
    let walk := if least = 0 then (test.apply call launch route place walk).2 else walk
    if walk.pruned then { walk with pruned := false }
    else
      let names := (walk.files.names place).mergeSort fun a b => a ≤ b
      let before := if route.endsWith "/" then route else route ++ "/"
      names.foldl (fun walk name =>
        test.visit call launch fuel (least - 1) (before ++ name) (place ++ [name]) walk) walk

/-- Take the bounds on the depth out of the arguments. -/
def splitDepths : List String → List (String × Nat) × List String
  | option :: count :: rest =>
    let (depths, others) := splitDepths (count :: rest)
    match ["-maxdepth", "-mindepth"].contains option, count.toNat? with
    | true, some n => ((option, n) :: (splitDepths rest).1, (splitDepths rest).2)
    | _, _ => (depths, option :: others)
  | rest => ([], rest)

/-- How deep directories are gone into at most. -/
def depthLimit : Nat := 64

/-- Go through directories and do tests on their entries. -/
def find (launch : Launch) : Utility := fun call =>
  let isTest (arg : String) : Bool := (arg.startsWith "-" && arg != "-") || ["(", "!"].contains arg
  let paths := call.args.takeWhile (!isTest ·)
  let (depths, args) := splitDepths (call.args.drop paths.length)
  let read : Except String (EntryTest × List String) :=
    if args.isEmpty then .ok (.always, []) else readTest (args.length * 4 + 4) args
  match read with
  | .error text => call.refused 1 text
  | .ok (_, extra :: _) => call.refused 1 s!"unexpected argument {quoted extra}"
  | .ok (test, []) =>
    let test := if test.acts then test else .both test (.print Input.newline)
    let most := (depths.lookup "-maxdepth").getD depthLimit
    let least := (depths.lookup "-mindepth").getD 0
    let start : Walk := ⟨[], [], call.files, false⟩
    let walk := (if paths.isEmpty then ["."] else paths).foldl (fun (walk : Walk) path =>
      match walk.files.locate path, walk.files.find path with
      | .ok place, .ok _ => test.visit call launch (most + 1) least path place walk
      | _, .error failure | .error failure, _ =>
        let text := s!"{quoted path}: {failure.description}"
        { walk with complaints := walk.complaints ++ call.complaint text }) start
    let hasFailed := walk.complaints.length != 0
    ⟨walk.output, walk.complaints, .code (if hasFailed then 1 else 0), walk.files, call.input⟩

end CommandShell.Programs
