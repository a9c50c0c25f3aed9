import CommandShell.Programs.Regular.Matching
import CommandShell.Programs.Regular.Reader
import CommandShell.Programs.Script.Glob
import CommandShell.Programs.Utility.Names
import CommandShell.Programs.Utility.Size

/-!
# Searching

The program `grep`, which shows the lines of files that match regular expressions, or only counts
them, names the files, or shows what matches.
-/

namespace CommandShell.Programs

/-- What is looked for in lines. -/
structure Quest where
  /-- The expression. -/
  regular : Regular
  /-- Case does not matter. -/
  folds : Bool
  /-- A match is a whole line. -/
  wholeLine : Bool
  /-- A match begins and ends at the edges of words. -/
  wholeWord : Bool
  /-- The lines that do not match are looked for. -/
  inverted : Bool

namespace Quest

/-- A match from one position to another one counts. -/
def accepts (quest : Quest) (subject : Regular.Subject) (start stop : Nat) : Bool :=
  if quest.wholeLine then start = 0 && stop = subject.bytes.size
  else !quest.wholeWord || !(subject.isWordBefore start || subject.isWordAt stop)

/-- The next match in a line from a position on. -/
def next? (quest : Quest) (subject : Regular.Subject) (start : Nat) : Option (Nat × Nat) :=
  Regular.searchFrom subject quest.regular (quest.accepts subject) (subject.bytes.size + 1 - start)
    start

/-- The line as a subject. -/
def subject (quest : Quest) (line : Bytes) : Regular.Subject :=
  ⟨line.toArray, false, quest.folds⟩

/-- A line is looked for. -/
def selects (quest : Quest) (line : Bytes) : Bool :=
  (quest.next? (quest.subject line) 0).isSome != quest.inverted

/-- The parts of a line that match and are not empty, with their positions; `fuel` bounds their
number. -/
def parts (quest : Quest) (subject : Regular.Subject) : (fuel start : Nat) → List (Nat × Bytes)
  | 0, _ => []
  | fuel + 1, start =>
    match quest.next? subject start with
    | none => []
    | some (first, stop) =>
      if stop = first then quest.parts subject fuel (first + 1)
      else (first, subject.part first stop) :: quest.parts subject fuel stop

end Quest

/-- How `grep` reports what it finds. -/
structure Report where
  /-- Only the number of lines is told. -/
  counts : Bool
  /-- Only the names of files are told: those with lines, or those without. -/
  names : Option Bool
  /-- Nothing is told. -/
  quiet : Bool
  /-- Only what matches is shown. -/
  partsOnly : Bool
  /-- Lines have numbers. -/
  numbered : Bool
  /-- Lines have the positions of their first bytes. -/
  positioned : Bool
  /-- Lines have the names of their files. -/
  named : Bool
  /-- Files are taken as text whatever is in them. -/
  asText : Bool
  /-- How many lines are shown before and after each one, if that is told. -/
  context : Option (Nat × Nat)
  /-- The most lines that are looked for in each file. -/
  most : Option Nat
  deriving DecidableEq, Repr

/-- A line of a file, with what is told about it. -/
structure SourceLine where
  /-- The line. -/
  text : Bytes
  /-- Its number. -/
  number : Nat
  /-- The position of its first byte. -/
  position : Nat
  /-- It is one that is looked for. -/
  selected : Bool
  deriving DecidableEq, Repr

/-- Lines with their numbers and positions. -/
def sourceLines (quest : Quest) : (number position : Nat) → (left : Option Nat) → List Bytes →
    List SourceLine
  | _, _, _, [] => []
  | number, position, left, text :: rest =>
    let isOpen := left != some 0
    let selected := isOpen && quest.selects text
    ⟨text, number, position, selected⟩ ::
      sourceLines quest (number + 1) (position + text.length + 1)
        (if selected then left.map (· - 1) else left) rest

namespace Report

/-- What stands before a line: `sign` separates it from the line. -/
def heading (report : Report) (name sign : String) (number position : Nat) : Bytes :=
  utf8 ((if report.named then name ++ sign else "") ++
    (if report.numbered then toString number ++ sign else "") ++
    (if report.positioned then toString position ++ sign else ""))

/-- A line as it is shown. -/
def lineShown (report : Report) (quest : Quest) (name : String) (line : SourceLine) : Bytes :=
  if report.partsOnly then
    if !line.selected || quest.inverted then []
    else
      (quest.parts (quest.subject line.text) (line.text.length + 1) 0).flatMap
        fun (start, part) =>
          report.heading name ":" line.number (line.position + start) ++ part ++ [Input.newline]
  else
    report.heading name (if line.selected then ":" else "-") line.number line.position ++
      line.text ++ [Input.newline]

/-- The lines that are shown: those with a selected line near enough. -/
def shownLines (before after : Nat) (lines : List SourceLine) : List SourceLine :=
  let selected := (lines.filter (·.selected)).map (·.number)
  lines.filter fun line => selected.any fun n => n ≤ line.number + before && line.number ≤ n + after

/-- Lines as they are shown, with a sign between those that do not follow each other; `last` is
the number of the line before. -/
def showGroups (report : Report) (quest : Quest) (name : String) : (last : Option Nat) →
    List SourceLine → Bytes
  | _, [] => []
  | last, line :: rest =>
    let gap := last.any (· + 1 != line.number)
    (if gap then utf8 "--\n" else []) ++ report.lineShown quest name line ++
      report.showGroups quest name (some line.number) rest

/-- What is told about a file. -/
structure Answer where
  /-- What is shown. -/
  shown : Bytes
  /-- What is said besides. -/
  remarks : Bytes
  /-- There are lines in it that are looked for. -/
  isFound : Bool

/-- What is told about a file. `isLater` tells that something has been shown of another file. -/
def ofFile (report : Report) (quest : Quest) (program name : String) (isLater : Bool)
    (data : Bytes) : Answer :=
  let lines := sourceLines quest 1 0 report.most (linesOf data)
  let count := (lines.filter (·.selected)).length
  let isFound := count != 0
  let showing (shown : Bytes) : Answer := ⟨shown, [], isFound⟩
  if report.quiet then showing []
  else if let some ofThose := report.names then
    showing (if isFound = ofThose then utf8 (name ++ "\n") else [])
  else if report.counts then
    showing (utf8 ((if report.named then name ++ ":" else "") ++ s!"{count}\n"))
  else if isFound && data.contains 0 && !report.asText then
    ⟨[], utf8 s!"{program}: {name}: binary file matches\n", true⟩
  else
    match report.context with
    | none => showing ((lines.filter (·.selected)).flatMap (report.lineShown quest name))
    | some (before, after) =>
      let groups := report.showGroups quest name none (shownLines before after lines)
      showing (if isLater && !groups.isEmpty then utf8 "--\n" ++ groups else groups)

/-- What is told about several files; `label` is the name of the input. -/
def ofFiles (report : Report) (quest : Quest) (program label : String) : (isLater : Bool) →
    List (String × Bytes) → Answer
  | _, [] => ⟨[], [], false⟩
  | isLater, (path, data) :: rest =>
    let name := if path = "-" then label else path
    let first := report.ofFile quest program name isLater data
    let others := report.ofFiles quest program label (isLater || !first.shown.isEmpty) rest
    ⟨first.shown ++ others.shown, first.remarks ++ others.remarks,
      first.isFound || others.isFound⟩

end Report

/-- The files in and below what a path leads to, in the order of their names; `fuel` bounds how
deep directories are. -/
def filesBelow (files : Files) : (fuel : Nat) → (path : String) → List String
  | 0, _ => []
  | fuel + 1, path =>
    match files.locate path with
    | .error _ => [path]
    | .ok place =>
      if files.entryAt? place = some .directory then
        let names := (files.names place).mergeSort fun a b => a ≤ b
        names.flatMap fun name =>
          filesBelow files fuel (if path.endsWith "/" then path ++ name else path ++ "/" ++ name)
      else [path]

/-- Arguments with a count of lines around each one, `-3`, put as an option. -/
def withContextOptions (args : List String) : List String :=
  args.flatMap fun arg =>
    let digits := arg.toList.drop 1
    if arg.startsWith "-" && !digits.isEmpty && digits.all Char.isDigit then
      ["-C", String.ofList digits]
    else [arg]

/-- The way in which an expression is written, by the letter of the last option that tells it. -/
def readPattern (letter : Char) (text : Bytes) : Except Regular.Fault Regular :=
  match letter with
  | 'F' => .ok (.ofText text)
  | 'E' => Regular.read true text
  | 'P' => Regular.read true (withoutShortcuts text)
  | _ => Regular.read false text
where
  /-- The expression without the shortcuts for digits, and without marks of groups that are not
  counted. -/
  withoutShortcuts : Bytes → Bytes
    | 0x5C :: 0x64 :: rest => utf8 "[0-9]" ++ withoutShortcuts rest
    | 0x5C :: 0x44 :: rest => utf8 "[^0-9]" ++ withoutShortcuts rest
    | 0x5C :: b :: rest => 0x5C :: b :: withoutShortcuts rest
    | 0x28 :: 0x3F :: 0x3A :: rest => 0x28 :: withoutShortcuts rest
    | b :: rest => b :: withoutShortcuts rest
    | [] => []

/-- Options that have long names only, with the letters that stand for them here. -/
def searchOptions : List Flag :=
  [ ⟨'\x01', "include", .always⟩, ⟨'\x02', "exclude", .always⟩,
    ⟨'\x03', "exclude-dir", .always⟩, ⟨'\x04', "label", .always⟩,
    ⟨'\x05', "binary-files", .always⟩, ⟨'\x06', "color", .attached⟩,
    ⟨'\x06', "colour", .attached⟩, ⟨'q', "silent", .never⟩, ⟨'\x07', "line-buffered", .never⟩ ]

/-- A file below a directory is looked at, as far as its name and the names above it tell. -/
def isWanted (arguments : Arguments) (path : String) : Bool :=
  let fitsOne (text pattern : String) : Bool :=
    Script.fits (Script.wildOf (pattern.toList.map (⟨·, false⟩))) text.toList
  let included := arguments.values '\x01'
  let name := baseOf path
  (included.isEmpty || included.any (fitsOne name)) &&
    !(arguments.values '\x02').any (fitsOne name) &&
    !(path.splitOn "/").dropLast.any fun part => (arguments.values '\x03').any (fitsOne part)

/-- Show lines that match. `usual` is the letter of the way in which expressions are written if no
option tells it. -/
def grepUsing (usual : Char) : Utility := fun call =>
  let flags := flagsOf "EFGPivwxclLqsnbHhorRayzUIT" "efmABCdD"
    [('E', "extended-regexp"), ('F', "fixed-strings"), ('G', "basic-regexp"), ('P', "perl-regexp"),
      ('i', "ignore-case"), ('v', "invert-match"), ('w', "word-regexp"), ('x', "line-regexp"),
      ('c', "count"), ('l', "files-with-matches"), ('L', "files-without-match"), ('q', "quiet"),
      ('s', "no-messages"), ('n', "line-number"), ('b', "byte-offset"), ('H', "with-filename"),
      ('h', "no-filename"), ('o', "only-matching"), ('r', "recursive"), ('a', "text"),
      ('e', "regexp"), ('f', "file"), ('m', "max-count"), ('A', "after-context"),
      ('B', "before-context"), ('C', "context"), ('I', "binary-without-match"), ('z', "null-data"),
      ('d', "directories"), ('R', "dereference-recursive")] ++ searchOptions
  let call := { call with args := withContextOptions call.args }
  let usage (text : String) : Product :=
    let lines := text ++ s!"Usage: {call.name} [OPTION]... PATTERNS [FILE]...\n" ++
      s!"Try '{call.name} --help' for more information.\n"
    { call.ended 2 [] with complaints := utf8 lines }
  match Arguments.read flags call.args with
  | .error text => usage s!"{call.name}: {text}\n"
  | .ok arguments =>
    let given := arguments.values 'e'
    let lists := (arguments.values 'f').map fun path =>
      if path = "-" then Except.ok call.input else contentsOf call.files path
    let fromFiles := lists.flatMap fun data => linesOf ((data.toOption).getD [])
    let isGiven := arguments.has 'e' || arguments.has 'f'
    match isGiven, arguments.operands with
    | false, [] => usage ""
    | _, operands =>
      let texts := if isGiven then given else operands.take 1
      let paths := if isGiven then operands else operands.drop 1
      let isDeep := arguments.has 'r' || arguments.has 'R'
      let paths := if isDeep && paths.isEmpty then ["."] else paths
      let found := if isDeep then
          (paths.flatMap (filesBelow call.files 40)).filter (isWanted arguments)
        else if arguments.value? 'd' = some "skip" then
          paths.filter fun path => (call.files.find path).toOption != some .directory
        else paths
      let badContext := ['A', 'B', 'C'].findSome? fun letter =>
        (arguments.value? letter).filter (·.toNat?.isNone)
      let found := if isDeep && paths = ["."] && arguments.operands.length < 2 then
          found.map fun path => (path.drop 2).toString
        else found
      let patterns := texts.flatMap (fun text => splitAtNewlines (utf8 text)) ++ fromFiles
      let letter := (arguments.last? ['E', 'F', 'G', 'P']).getD usual
      let most := (arguments.value? 'm').map (·.toNat?)
      match patterns.mapM (readPattern letter), most, badContext with
      | .error fault, _, _ => call.refused 2 fault.message
      | _, some none, _ => call.refused 2 "invalid max count"
      | _, _, some text => call.refused 2 s!"{text}: invalid context length argument"
      | .ok regulars, most, none =>
        let folds := arguments.has 'i' || arguments.has 'y'
        let all := match regulars with
          | [] => Regular.byte ⟨0⟩
          | first :: rest => rest.foldl Regular.either first
        let quest : Quest :=
          { regular := if folds then all.folded else all, folds
            wholeLine := arguments.has 'x', wholeWord := arguments.has 'w'
            inverted := arguments.has 'v' }
        let number (letter : Char) : Option Nat := (arguments.value? letter).bind (·.toNat?)
        let around := number 'C'
        let context := match (number 'B').or around, (number 'A').or around with
          | none, none => none
          | before, after => some (before.getD 0, after.getD 0)
        let report : Report :=
          { counts := arguments.has 'c'
            names := if arguments.has 'l' then some true
              else if arguments.has 'L' then some false else none
            quiet := arguments.has 'q', partsOnly := arguments.has 'o'
            numbered := arguments.has 'n', positioned := arguments.has 'b'
            named := (found.length > 1 || arguments.has 'H' || isDeep) && !arguments.has 'h'
            asText := arguments.has 'a' || arguments.has 'z' ||
              arguments.value? '\x05' = some "text"
            context, most := most.bind id }
        let contents : Contents := call.contents found
        let label := (arguments.value? '\x04').getD "(standard input)"
        let answer := report.ofFiles quest call.name label false contents.good
        let isFound := answer.isFound
        let complaints := call.complaintsAbout Call.plainly contents
        let shown := if arguments.has 's' then [] else complaints
        let isSpoiled := !complaints.isEmpty && !(report.quiet && isFound)
        let code : UInt8 := if isSpoiled then 2 else if isFound then 0 else 1
        call.reads found
          { call.ended code answer.shown with complaints := shown ++ answer.remarks }
where
  /-- The lines of a list of expressions, of which there is always one. -/
  splitAtNewlines (text : Bytes) : List Bytes :=
    let lines := linesOf (text ++ [Input.newline])
    if lines.isEmpty then [[]] else lines

/-- Show lines that match basic regular expressions. -/
def grep : Utility := grepUsing 'G'

end CommandShell.Programs
