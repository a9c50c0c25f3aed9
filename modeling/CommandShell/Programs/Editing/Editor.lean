import CommandShell.Programs.Editing.Reader
import CommandShell.Programs.Regular.Matching
import CommandShell.Programs.Utility.Names

/-!
# The Stream Editor

How a script is carried out on lines: on each line from the first command to the last one, unless a
command decides otherwise; then the line is printed, and what is to be printed after it. The newline
that the last line of the input lacks is also left out where that line is printed last.
-/

namespace CommandShell.Programs.Editing

/-- What the editor knows while it works. -/
structure Editor where
  /-- The line being worked on. -/
  line : Bytes
  /-- It ended with a newline. -/
  complete : Bool
  /-- What is held. -/
  held : Bytes
  /-- The number of the line. -/
  number : Nat
  /-- The lines that have not been read, with whether they end with a newline. -/
  unread : List (Bytes × Bool)
  /-- What has been printed, in pieces, last first. -/
  printed : List Bytes
  /-- The last line that has been printed lacks its newline. -/
  lacksNewline : Bool
  /-- What is printed after the line. -/
  queue : List Bytes
  /-- Something has been replaced since the line was read. -/
  replaced : Bool
  /-- The expression that was used last. -/
  lastPattern : Regular
  /-- The ranges that have begun, by the positions of their commands, with the line numbers at which
  they end if these are known. -/
  ranges : List (Nat × Option Nat)
  /-- What has been written to files, in pieces, last first. -/
  written : List (String × Bytes)
  /-- The files. -/
  files : Files

/-- How the editor goes on after a command. -/
inductive Flow where
  /-- With the command at a position. -/
  | goTo (position : Nat)
  /-- With the next line; this one is printed unless that is not wanted. -/
  | nextLine
  /-- With the next line; this one is not printed. -/
  | dropLine
  /-- With the script from its beginning, on the line as it is. -/
  | restart
  /-- Not at all; the line is printed if that is wanted and `silent` is not set. -/
  | quit (silent : Bool) (code : Nat)
  deriving DecidableEq, Repr

/-- How the editor works. -/
structure Settings where
  /-- The commands. -/
  commands : Array Command
  /-- Lines are not printed by themselves. -/
  quiet : Bool

namespace Editor

/-- Print bytes as they are, after a newline that is still lacking. -/
def emit (editor : Editor) (bytes : Bytes) : Editor :=
  let lacking := if editor.lacksNewline then [[Input.newline]] else []
  { editor with printed := bytes :: lacking ++ editor.printed, lacksNewline := false }

/-- Print a line. -/
def printLine (editor : Editor) (line : Bytes) : Editor :=
  if editor.complete then editor.emit (line ++ [Input.newline])
  else { editor.emit line with lacksNewline := true }

/-- Print what is to be printed after the line. -/
def flushQueue (editor : Editor) : Editor :=
  let printed := editor.queue.foldl emit editor
  { printed with queue := [] }

/-- Read the next line, if there is one. -/
def readLine? (editor : Editor) : Option Editor :=
  match editor.unread with
  | [] => none
  | (line, complete) :: unread =>
    some { editor.flushQueue with
      line, complete, unread, number := editor.number + 1, replaced := false }

/-- Write a line to a file, or print it for the file that stands for the output. -/
def writeTo (editor : Editor) (path : String) (line : Bytes) : Editor :=
  if path = "/dev/stdout" then editor.printLine line
  else if path = "/dev/stderr" then editor
  else
    let line := line ++ [Input.newline]
    let old := (editor.written.lookup path).getD []
    { editor with written := (path, old ++ line) :: editor.written.filter (·.1 != path) }

/-- The expression of a pattern, which is used from now on. -/
def use (editor : Editor) (pattern : Pattern) : Regular × Editor :=
  let regular := pattern.regular.getD editor.lastPattern
  (regular, { editor with lastPattern := regular })

/-- The line as a text in which a pattern is looked for. -/
def subject (editor : Editor) (pattern : Pattern) : Regular.Subject :=
  ⟨editor.line.toArray, pattern.multiLine, pattern.folds⟩

/-- The line has an address. -/
def isAt (editor : Editor) : Address → Bool × Editor
  | .line number => (editor.number = number, editor)
  | .last => (editor.unread.isEmpty, editor)
  | .step first size =>
    (if size = 0 then editor.number = first
      else first ≤ editor.number && (editor.number - first) % size = 0, editor)
  | .pattern pattern =>
    let (regular, editor) := editor.use pattern
    ((Regular.search? (editor.subject pattern) regular 0).isSome, editor)

/-- Give a range up, or let it begin with the number of the line at which it ends, if that is
known. -/
def setRange (editor : Editor) (position : Nat) (range : Option (Option Nat)) : Editor :=
  let others := editor.ranges.filter (·.1 != position)
  { editor with ranges := (range.map (position, ·)).toList ++ others }

/-- A range begins at the line; it goes on after it unless its end is there already. -/
def beginRange (editor : Editor) (position : Nat) : RangeEnd → Editor
  | .address (.line last) =>
    if last ≤ editor.number then editor else editor.setRange position (some (some last))
  | .address .last =>
    if editor.unread.isEmpty then editor else editor.setRange position (some none)
  | .address _ => editor.setRange position (some none)
  | .after count =>
    if count = 0 then editor else editor.setRange position (some (some (editor.number + count)))
  | .multiple size =>
    if size = 0 || editor.number % size = 0 then editor
    else editor.setRange position (some (some (editor.number + size - editor.number % size)))

/-- The line belongs to a range that has begun before it. -/
def continueRange (editor : Editor) (position : Nat) (known : Option Nat) (last : RangeEnd) :
    Bool × Editor :=
  match known, last with
  | some number, _ =>
    if editor.number < number then (true, editor)
    else (editor.number = number, editor.setRange position none)
  | none, .address address =>
    let (isEnd, editor) := editor.isAt address
    (true, if isEnd then editor.setRange position none else editor)
  | none, _ => (true, editor.setRange position none)

/-- The line is one that a command is carried out on. -/
def selects (editor : Editor) (position : Nat) (selection : Selection) : Bool × Editor :=
  let (isSelected, editor) := match selection.first, selection.last with
    | none, _ => (true, editor)
    | some address, none => editor.isAt address
    | some first, some last =>
      match editor.ranges.lookup position with
      | some known => editor.continueRange position known last
      | none =>
        let (isFirst, editor) := editor.isAt first
        (isFirst, if isFirst then editor.beginRange position last else editor)
  (isSelected != selection.negated, editor)

end Editor

/-- How letters are changed: those that follow, and the next one. -/
structure Casing where
  /-- How all letters are changed. -/
  all : Option Bool
  /-- How the next letter is changed. -/
  next : Option Bool
  deriving DecidableEq, Repr

/-- Change the case of bytes. -/
def Casing.apply (casing : Casing) (bytes : Bytes) : Bytes × Casing :=
  let change (upper : Bool) (b : UInt8) : UInt8 := if upper then upperByte b else lowerByte b
  let changed := match casing.all with
    | some upper => bytes.map (change upper)
    | none => bytes
  match changed, casing.next with
  | b :: rest, some upper => (change upper b :: rest, { casing with next := none })
  | _, _ => (changed, casing)

/-- What a match is replaced by. -/
def replacementOf (subject : Regular.Subject) (found : Regular.Match) : Casing → List Piece → Bytes
  | _, [] => []
  | casing, .text bytes :: rest =>
    let (bytes, casing) := casing.apply bytes
    bytes ++ replacementOf subject found casing rest
  | casing, .group number :: rest =>
    let (bytes, casing) := casing.apply (found.text subject number)
    bytes ++ replacementOf subject found casing rest
  | casing, .case change :: rest =>
    let casing : Casing := match change with
      | .upper => ⟨some true, none⟩
      | .lower => ⟨some false, none⟩
      | .nextUpper => { casing with next := some true }
      | .nextLower => { casing with next := some false }
      | .stop => ⟨none, none⟩
    replacementOf subject found casing rest

/-- Replace matches from a position on: the text from there, and whether something is replaced.
`count` numbers the next match, `barred` is where an empty match does not count because another
match ends there, and `fuel` bounds the number of matches. -/
def replaceFrom (subject : Regular.Subject) (regular : Regular) (substitution : Substitution) :
    (fuel count start : Nat) → (barred : Option Nat) → Bytes × Bool
  | 0, _, start, _ => (subject.part start subject.bytes.size, false)
  | fuel + 1, count, start, barred =>
    let goOn := replaceFrom subject regular substitution fuel
    match Regular.search? subject regular start with
    | none => (subject.part start subject.bytes.size, false)
    | some found =>
      let before := subject.part start found.start
      let isEmpty := found.start = found.stop
      if isEmpty && barred = some found.start then
        if found.start < subject.bytes.size then
          let (rest, replaced) := goOn count (found.start + 1) none
          (before ++ subject.part found.start (found.start + 1) ++ rest, replaced)
        else (before, false)
      else
        let isReplaced := substitution.which ≤ count
        let middle := if isReplaced then
            replacementOf subject found ⟨none, none⟩ substitution.replacement
          else subject.part found.start found.stop
        if isReplaced && !substitution.all then
          (before ++ middle ++ subject.part found.stop subject.bytes.size, true)
        else if isEmpty then
          if found.start < subject.bytes.size then
            let (rest, replaced) := goOn (count + 1) (found.start + 1) none
            (before ++ middle ++ subject.part found.start (found.start + 1) ++ rest,
              replaced || isReplaced)
          else (before ++ middle, isReplaced)
        else
          let (rest, replaced) := goOn (count + 1) found.stop (some found.stop)
          (before ++ middle ++ rest, replaced || isReplaced)

/-- A byte as the editor shows it where all is to be seen. -/
def visible (b : UInt8) : Bytes :=
  match b with
  | 0x5C => utf8 "\\\\"
  | 0x07 => utf8 "\\a"
  | 0x08 => utf8 "\\b"
  | 0x0C => utf8 "\\f"
  | 0x0A => utf8 "\\n"
  | 0x0D => utf8 "\\r"
  | 0x09 => utf8 "\\t"
  | 0x0B => utf8 "\\v"
  | _ =>
    if 0x20 ≤ b && b < 0x7F then [b]
    else
      let n := b.toNat
      utf8 "\\" ++ [n / 64 % 8, n / 8 % 8, n % 8].map fun d => UInt8.ofNat (0x30 + d)

/-- A line with signs for what cannot be seen, broken at a width. -/
def visibleLine (width : Nat) (line : Bytes) : Bytes :=
  let (shown, _) := line.foldl (fun (shown, column) b =>
    let sign := visible b
    if width > 1 && column + sign.length > width - 1 then
      (shown ++ utf8 "\\\n" ++ sign, sign.length)
    else (shown ++ sign, column + sign.length)) (([] : Bytes), 0)
  shown ++ utf8 "$\n"

namespace Editor

/-- The line up to its first newline. -/
def firstOf (line : Bytes) : Bytes := line.takeWhile (· != Input.newline)

/-- Carry out a replacement. -/
def substitute (editor : Editor) (substitution : Substitution) : Editor :=
  let (regular, editor) := editor.use substitution.pattern
  let subject := editor.subject substitution.pattern
  let (line, replaced) := replaceFrom subject regular substitution (subject.bytes.size + 2) 1 0 none
  if !replaced then editor
  else
    let editor := { editor with line, replaced := true }
    let editor := if substitution.prints then editor.printLine line else editor
    match substitution.file with
    | some path => editor.writeTo path line
    | none => editor

/-- Where a branch leads: to the position of a label, or to the end. -/
def target (settings : Settings) (label : String) : Nat :=
  if label.isEmpty then settings.commands.size
  else
    (settings.commands.findIdx? fun command => command.action = .label label).getD
      settings.commands.size

/-- Carry out a command at a position. -/
def act (settings : Settings) (editor : Editor) (position : Nat) (command : Command) :
    Editor × Flow :=
  let goOn (editor : Editor) : Editor × Flow := (editor, .goTo (position + 1))
  match command.action with
  | .nothing | .label _ | .block _ => goOn editor
  | .substitute substitution => goOn (editor.substitute substitution)
  | .translate table =>
    goOn { editor with line := editor.line.map fun b => (table.lookup b).getD b }
  | .append text => goOn { editor with queue := editor.queue ++ [text] }
  | .insert text => goOn (editor.emit text)
  | .change text =>
    let isOpen := (editor.ranges.lookup position).isSome && !command.selection.negated
    (if isOpen then editor else editor.emit text, .dropLine)
  | .delete => (editor, .dropLine)
  | .deleteFirst =>
    if editor.line.contains Input.newline then
      let rest := editor.line.drop ((firstOf editor.line).length + 1)
      ({ editor with line := rest }.flushQueue, .restart)
    else (editor, .dropLine)
  | .print => goOn (editor.printLine editor.line)
  | .printFirst => goOn (editor.emit (firstOf editor.line ++ [Input.newline]))
  | .list width => goOn (editor.emit (visibleLine width editor.line))
  | .number => goOn (editor.emit (utf8 s!"{editor.number}\n"))
  | .next =>
    if editor.unread.isEmpty then (editor, .quit false 0)
    else
      let shown := if settings.quiet then editor else editor.printLine editor.line
      goOn (shown.readLine?.getD shown)
  | .join =>
    match editor.readLine? with
    | none => (editor, .quit false 0)
    | some after =>
      goOn { after with
        line := editor.line ++ Input.newline :: after.line, replaced := editor.replaced }
  | .hold => goOn { editor with held := editor.line }
  | .holdMore => goOn { editor with held := editor.held ++ Input.newline :: editor.line }
  | .take => goOn { editor with line := editor.held }
  | .takeMore => goOn { editor with line := editor.line ++ Input.newline :: editor.held }
  | .exchange => goOn { editor with line := editor.held, held := editor.line }
  | .clear => goOn { editor with line := [] }
  | .branch label => (editor, .goTo (target settings label))
  | .branchIf otherwise label =>
    if editor.replaced = otherwise then
      goOn { editor with replaced := false }
    else ({ editor with replaced := false }, .goTo (target settings label))
  | .quit silent code => (editor, .quit silent code)
  | .read path =>
    let data := (contentsOf editor.files path).toOption.getD []
    goOn { editor with queue := editor.queue ++ (if data.isEmpty then [] else [data]) }
  | .write firstOnly path =>
    goOn (editor.writeTo path (if firstOnly then firstOf editor.line else editor.line))

/-- Carry out commands from a position on until the line is done with; `fuel` bounds their
number. -/
def carryOut (settings : Settings) : (fuel : Nat) → Editor → (position : Nat) → Editor × Flow
  | 0, editor, _ => (editor, .quit false 0)
  | fuel + 1, editor, position =>
    match settings.commands[position]? with
    | none => (editor, .nextLine)
    | some command =>
      let (isSelected, editor) := editor.selects position command.selection
      if !isSelected then
        match command.action with
        | .block stop => carryOut settings fuel editor stop
        | _ => carryOut settings fuel editor (position + 1)
      else
        match act settings editor position command with
        | (editor, .goTo next) => carryOut settings fuel editor next
        | result => result

/-- The most commands that are carried out on one line. -/
def commandLimit : Nat := 100000

/-- Work on lines until none are left or the editor quits: the editor and the code it ends with;
`fuel` bounds how often the script is carried out. -/
def workOn (settings : Settings) : (fuel : Nat) → Editor → Editor × Nat
  | 0, editor => (editor, 0)
  | fuel + 1, editor =>
    let shown (editor : Editor) : Editor :=
      (if settings.quiet then editor else editor.printLine editor.line).flushQueue
    let next (editor : Editor) : Editor × Nat :=
      match editor.readLine? with
      | some editor => workOn settings fuel editor
      | none => (editor, 0)
    match carryOut settings commandLimit editor 0 with
    | (editor, .nextLine) | (editor, .goTo _) => next (shown editor)
    | (editor, .dropLine) => next editor.flushQueue
    | (editor, .restart) => workOn settings fuel editor
    | (editor, .quit silent code) => (if silent then editor else shown editor, code)

/-- An editor that has not read anything. -/
def start (files : Files) (data : Bytes) : Editor where
  line := []
  complete := true
  held := []
  number := 0
  unread := (linesWithEnds data).map fun line =>
    if line.getLast? = some Input.newline then (line.dropLast, true) else (line, false)
  printed := []
  lacksNewline := false
  queue := []
  replaced := false
  lastPattern := .empty
  ranges := []
  written := []
  files := files

/-- The positions of commands whose ranges have begun before the first line. -/
def openRanges (settings : Settings) : List (Nat × Option Nat) :=
  let commands := settings.commands.toList
  (commands.zip (List.range commands.length)).filterMap fun (command, i) =>
    if command.selection.first = some (.line 0) then some (i, none) else none

/-- Edit some data: the editor after it, and the code it ends with. -/
def edit (settings : Settings) (editor : Editor) : Editor × Nat :=
  let editor := if editor.number = 0 then { editor with ranges := openRanges settings } else editor
  match editor.readLine? with
  | some first => workOn settings (editor.unread.length * 64 + 1000) first
  | none => (editor, 0)

/-- What has been printed. -/
def output (editor : Editor) : Bytes := editor.printed.reverse.flatten

end Editor

/-- Where the old contents of a file that is edited in place are kept: a star in the suffix stands
for its name. -/
def keptPath (suffix path : String) : String :=
  if suffix.contains '*' then
    let name := baseOf path
    (path.dropEnd name.length).toString ++ suffix.replace "*" name
  else path ++ suffix

/-- Put what has been written into files. -/
def writeAll (files : Files) (written : List (String × Bytes)) : Files :=
  written.foldr (fun (path, data) files => (files.write path data).toOption.getD files) files

/-- Edit operands by a script. -/
def sed : Utility := fun call =>
  let flags := flagsOf "nErsuz" "efl"
    [('n', "quiet"), ('E', "regexp-extended"), ('s', "separate"), ('u', "unbuffered"),
      ('z', "null-data"), ('e', "expression"), ('f', "file"), ('l', "line-length")] ++
    flagsAttached [('i', "in-place")]
  let args := call.args.map fun arg => if arg = "--silent" then "-n" else arg
  let call := { call with args }
  call.parsed flags 1 fun arguments =>
    let inPlace := arguments.has 'i'
    let suffix := (arguments.value? 'i').getD ""
    let isGiven := arguments.has 'e' || arguments.has 'f'
    let texts : List (Except Failure Bytes) := arguments.given.filterMap fun (letter, value) =>
      if letter = 'e' then some (.ok (utf8 value))
      else if letter = 'f' then
        if value = "-" then some (.ok call.input) else some (contentsOf call.files value)
      else none
    let (texts, paths) := if isGiven then (texts, arguments.operands)
      else ((arguments.operands.take 1).map fun text => .ok (utf8 text), arguments.operands.drop 1)
    match texts, texts.mapM id with
    | [], _ => call.misused 1 "no script"
    | _, .error failure => call.refused 1 s!"couldn't open file: {failure.description}"
    | _, .ok texts =>
      let withoutEnd (text : Bytes) : Bytes :=
        if text.getLast? = some Input.newline then text.dropLast else text
      let script := [Input.newline].intercalate (texts.map withoutEnd)
      match readScript (arguments.has 'E' || arguments.has 'r') script with
      | .error fault => call.refused 1 s!"-e expression #1, char 1: {fault.message}"
      | .ok commands =>
        let quiet := arguments.has 'n' || (script.take 3 = utf8 "#n\n")
        let settings : Settings := ⟨commands.toArray, quiet⟩
        let contents : Contents := call.contents paths
        let complaints := call.complaintsAbout (fun path failure =>
          if failure = .system .isDirectory then
            if inPlace then s!"couldn't edit {path}: not a regular file"
            else s!"read error on {path}: {failure.description}"
          else s!"can't read {path}: {failure.description}") contents
        let isOdd := contents.any fun
          | (_, .error (.system .isDirectory)) => true
          | _ => false
        let failureCode : UInt8 := if inPlace && isOdd then 4 else 2
        if inPlace && paths.isEmpty then call.refused 4 "no input files"
        else if inPlace then
          let files := contents.good.foldl (fun files (path, data) =>
            let (editor, _) := Editor.edit settings (.start files data)
            let files := writeAll files editor.written
            let files := if suffix.isEmpty then files
              else (files.write (keptPath suffix path) data).toOption.getD files
            (files.write path editor.output).toOption.getD files) call.files
          { (call.success []).spoiled failureCode complaints with files }
        else
          let isSeparate := arguments.has 's'
          let (editor, code) :=
            if isSeparate then
              contents.good.foldl (fun (editor, _) (_, data) =>
                let fresh := Editor.start call.files data
                let editor : Editor := { editor with unread := fresh.unread }
                Editor.edit settings editor) (Editor.start call.files [], 0)
            else Editor.edit settings (.start call.files contents.joined)
          let product := call.ended (UInt8.ofNat code) editor.output
          { (call.reads paths product).spoiled failureCode complaints with
            files := writeAll call.files editor.written }

end CommandShell.Programs.Editing
