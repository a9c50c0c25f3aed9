import CommandShell.Programs.Utility.Names

/-!
# Making and Removing Entries

Programs that make, remove, copy and move files and directories, and that change whether files can
be run.
-/

namespace CommandShell.Programs

/-- What a program does with one operand after the other: the files as they are, what it has
written, and what it complains about. -/
structure Work where
  /-- The files. -/
  files : Files
  /-- What has been written. -/
  output : Bytes
  /-- What is complained about. -/
  complaints : Bytes

namespace Work

/-- Nothing has been done yet. -/
def start (call : Call) : Work := ⟨call.files, [], []⟩

/-- Something cannot be done with an operand. -/
def complain (call : Call) (work : Work) (text : String) : Work :=
  { work with complaints := work.complaints ++ call.complaint text }

/-- Something has been done and is told about, if that is wanted. -/
def done (work : Work) (isTold : Bool) (files : Files) (text : String) : Work :=
  { work with files, output := work.output ++ if isTold then utf8 (text ++ "\n") else [] }

/-- What is left behind after all work. -/
def product (call : Call) (work : Work) : Product :=
  { (call.success work.output).spoiled 1 work.complaints with files := work.files }

/-- Do something with one operand after the other. -/
def onAll (call : Call) (operands : List String) (step : Work → String → Work) : Product :=
  (operands.foldl step (start call)).product call

end Work

/-- Make files that are not there yet. -/
def touch : Utility := fun call =>
  call.parsed (flagsOf "acfhm" "drt" [('c', "no-create"), ('d', "date"), ('r', "reference")]) 1
    fun arguments =>
      if arguments.operands.isEmpty then call.misused 1 "missing file operand"
      else
        Work.onAll call arguments.operands fun work path =>
          match work.files.locate path with
          | .error failure =>
            Work.complain call work s!"cannot touch {quoted path}: {failure.description}"
          | .ok place =>
            if (work.files.entryAt? place).isSome || arguments.has 'c' then work
            else work.done false (work.files.put place (.file [] false)) ""

/-- Make a directory, and those above it if `parents` is set. -/
def makeDirectory (call : Call) (parents isTold : Bool) (work : Work) (path : String) : Work :=
  let told := s!"{call.name}: created directory {quoted path}"
  let refuse (failure : String) : Work :=
    Work.complain call work s!"cannot create directory {quoted path}: {failure}"
  if parents then
    let start := if path.startsWith "/" then [] else work.files.workingDirectory
    let place := start ++ (Files.parts path).filter fun part => part != "" && part != "."
    let above := (List.range place.length).map fun n => place.take (n + 1)
    let blocked := above.any fun place =>
      match work.files.entryAt? place with
      | none | some .directory => false
      | _ => true
    if blocked then
      refuse (SystemFault.description
        (if (work.files.entryAt? place).isSome then .fileExists else .notDirectory))
    else work.done isTold (work.files.makeDirectories place) told
  else
    match work.files.locate path with
    | .error failure => refuse failure.description
    | .ok place =>
      if (work.files.entryAt? place).isSome then refuse (SystemFault.description .fileExists)
      else work.done isTold (work.files.put place .directory) told

/-- Make directories. -/
def mkdir : Utility := fun call =>
  call.parsed (flagsOf "pvZ" "m" [('p', "parents"), ('v', "verbose"), ('m', "mode")]) 1
    fun arguments =>
      if arguments.operands.isEmpty then call.lacking 1
      else
        Work.onAll call arguments.operands
          (makeDirectory call (arguments.has 'p') (arguments.has 'v'))

/-- Remove empty directories. -/
def rmdir : Utility := fun call =>
  call.parsed (flagsOf "pv" "" [('p', "parents"), ('v', "verbose")]) 1 fun arguments =>
    if arguments.operands.isEmpty then call.lacking 1
    else
      let paths := arguments.operands.flatMap fun path =>
        if !arguments.has 'p' then [path]
        else
          let parts := (Files.parts path).filter (· != "")
          (List.range parts.length).map fun n => "/".intercalate (parts.take (parts.length - n))
      Work.onAll call paths fun work path =>
        let refuse (failure : String) : Work :=
          Work.complain call work s!"failed to remove {quoted path}: {failure}"
        match work.files.locate path, work.files.find path with
        | .error failure, _ | _, .error failure => refuse failure.description
        | .ok place, .ok entry =>
          if entry != .directory then refuse (SystemFault.description .notDirectory)
          else if !(work.files.names place).isEmpty then
            refuse (SystemFault.description .notEmpty)
          else
            let told := s!"{call.name}: removing directory, {quoted path}"
            work.done (arguments.has 'v') (work.files.remove place) told

/-- Remove files, and directories with all that is in them if that is wanted. -/
def rm : Utility := fun call =>
  let flags := flagsOf "frRdivI" ""
    [('f', "force"), ('r', "recursive"), ('d', "dir"), ('v', "verbose")]
  call.parsed flags 1 fun arguments =>
    let isDeep := arguments.has 'r' || arguments.has 'R'
    let isForced := arguments.has 'f'
    if arguments.operands.isEmpty then
      if isForced then call.success [] else call.lacking 1
    else
      Work.onAll call arguments.operands fun work path =>
        let refuse (failure : String) : Work :=
          Work.complain call work s!"cannot remove {quoted path}: {failure}"
        match work.files.locate path, work.files.find path with
        | .error failure, _ | _, .error failure =>
          if isForced then work else refuse failure.description
        | .ok place, .ok .directory =>
          let isEmpty := (work.files.names place).isEmpty
          let last := baseOf path
          if (last = "." || last = "..") && isDeep then
            Work.complain call work <|
              s!"refusing to remove '.' or '..' directory: skipping {quoted path}"
          else if isDeep || (arguments.has 'd' && isEmpty) then
            work.done (arguments.has 'v') (work.files.remove place)
              s!"removed directory {quoted path}"
          else if arguments.has 'd' then refuse (SystemFault.description .notEmpty)
          else refuse (SystemFault.description .isDirectory)
        | .ok place, .ok _ =>
          work.done (arguments.has 'v') (work.files.remove place) s!"removed {quoted path}"

/-- Copy or move one operand to a path; `isMove` tells which of the two. -/
def transfer (call : Call) (arguments : Arguments) (isMove : Bool) (work : Work)
    (source target : String) : Work :=
  let verb := if isMove then "renamed " else ""
  let told := s!"{verb}{quoted source} -> {quoted target}"
  let isDeep := isMove || ['r', 'R', 'a'].any arguments.has
  match work.files.locate source, work.files.find source, work.files.locate target with
  | .error failure, _, _ | _, .error failure, _ =>
    Work.complain call work s!"cannot stat {quoted source}: {failure.description}"
  | _, _, .error failure =>
    let text := if isMove then s!"cannot move {quoted source} to {quoted target}"
      else s!"cannot create regular file {quoted target}"
    Work.complain call work s!"{text}: {failure.description}"
  | .ok fromPlace, .ok entry, .ok toPlace =>
    let old := work.files.entryAt? toPlace
    if fromPlace = toPlace then
      Work.complain call work s!"{quoted source} and {quoted target} are the same file"
    else if old.isSome && arguments.has 'n' then work
    else
      match entry, old with
      | .directory, some (.file ..) | .directory, some (.locked _) | .directory, some (.torn ..) =>
        Work.complain call work <|
          if isMove then s!"cannot overwrite non-directory {quoted target} with directory " ++
            quoted source
          else s!"cannot overwrite non-directory {quoted target} with directory {quoted source}"
      | .file .., some .directory | .locked _, some .directory | .torn .., some .directory =>
        Work.complain call work
          s!"cannot overwrite directory {quoted target} with non-directory"
      | .directory, _ =>
        if !isDeep then
          Work.complain call work s!"-r not specified; omitting directory {quoted source}"
        else if fromPlace.isPrefixOf toPlace then
          Work.complain call work <|
            if isMove then s!"cannot move {quoted source} to a subdirectory of itself, " ++
              quoted target
            else s!"cannot copy a directory, {quoted source}, into itself, {quoted target}"
        else
          let entries := work.files.below fromPlace
          let files := if isMove then work.files.remove fromPlace else work.files
          work.done (arguments.has 'v') (files.putBelow toPlace entries) told
      | .file data executable, _ =>
        let kept := match isMove, old with
          | false, some (.file _ executable) => executable
          | _, _ => executable
        let files := if isMove then work.files.remove fromPlace else work.files
        work.done (arguments.has 'v') (files.put toPlace (.file data kept)) told
      | .locked fault, _ | .torn _ fault, _ =>
        if isMove then
          work.done (arguments.has 'v') ((work.files.remove fromPlace).put toPlace entry) told
        else Work.complain call work s!"cannot read {quoted source}: {fault.val.description}"

/-- Copy or move operands to the last one, which must be a directory if there are several. -/
def transferAll (isMove : Bool) : Utility := fun call =>
  let flags := flagsOf "rRafnvpiuTdPLHxb" "tS"
    [('r', "recursive"), ('a', "archive"), ('f', "force"), ('n', "no-clobber"), ('v', "verbose"),
      ('t', "target-directory"), ('T', "no-target-directory"), ('u', "update")]
  call.parsed flags 1 fun arguments =>
    let operands := arguments.operands
    let isDirectory (path : String) : Bool := (call.files.find path).toOption = some .directory
    let inside (directory source : String) : String :=
      if directory.endsWith "/" then directory ++ baseOf source
      else directory ++ "/" ++ baseOf source
    let step := transfer call arguments isMove
    match arguments.value? 't', operands.reverse with
    | none, [] => call.misused 1 "missing file operand"
    | none, [only] => call.misused 1 s!"missing destination file operand after {quoted only}"
    | some directory, sources =>
      Work.onAll call sources.reverse fun work source => step work source (inside directory source)
    | none, target :: sources =>
      if isDirectory target && !arguments.has 'T' then
        Work.onAll call sources.reverse fun work source => step work source (inside target source)
      else
        match sources with
        | [source] => (step (.start call) source target).product call
        | _ =>
          let reason := match call.files.find target with
            | .ok _ => SystemFault.description .notDirectory
            | .error failure => failure.description
          call.refused 1 s!"target {quoted target}: {reason}"

/-- Copy operands. -/
def cp : Utility := transferAll false

/-- Move operands. -/
def mv : Utility := transferAll true

/-- Make another name for a file: it gets the same contents. -/
def ln : Utility := fun call =>
  call.parsed (flagsOf "sfnvrT" "t" [('s', "symbolic"), ('f', "force"), ('v', "verbose")]) 1
    fun arguments =>
      match arguments.operands with
      | [] => call.misused 1 "missing file operand"
      | [source, target] =>
        let target := if (call.files.find target).toOption = some .directory then
            target ++ "/" ++ baseOf source
          else target
        let isSymbolic := arguments.has 's'
        match call.files.find source, call.files.locate target with
        | .error failure, _ =>
          if isSymbolic then call.success []
          else call.refused 1 s!"failed to access {quoted source}: {failure.description}"
        | _, .error failure =>
          call.refused 1 s!"failed to create hard link {quoted target}: {failure.description}"
        | .ok entry, .ok place =>
          if (call.files.entryAt? place).isSome && !arguments.has 'f' then
            let kind := if isSymbolic then "symbolic" else "hard"
            let reason := SystemFault.description .fileExists
            call.refused 1 s!"failed to create {kind} link {quoted target}: {reason}"
          else { call.success [] with files := call.files.put place entry }
      | _ => call.misused 1 "missing destination file operand"

/-- Whether a file can be run after its mode is changed; nothing if the change is none. -/
def executableAfter (mode : String) (executable : Bool) : Option Bool :=
  let chars := mode.toList
  if !chars.isEmpty && chars.all fun c => '0' ≤ c && c ≤ '7' then
    some ((chars.reverse.take 3).any fun c => c.toNat % 2 = 1)
  else
    let clauses := (mode.split fun c => c = ',').toList.map (·.toString)
    clauses.foldlM (fun executable clause =>
      let rest := clause.toList.dropWhile fun c => "ugoa".toList.contains c
      match rest with
      | sign :: letters =>
        if !letters.all ("rwxXst".toList.contains ·) then none
        else if sign = '+' then some (executable || letters.contains 'x')
        else if sign = '-' then some (executable && !letters.contains 'x')
        else if sign = '=' then some (letters.contains 'x')
        else none
      | [] => none) executable

/-- Change whether files can be run. -/
def chmod : Utility := fun call =>
  let (options, rest) := call.args.span fun arg => arg.startsWith "-" && arg.length > 1 &&
    (arg.toList.drop 1).all ("Rvcf".toList.contains ·)
  let rest := if rest.head? = some "--" then rest.tail else rest
  match rest with
  | [] => call.lacking 1
  | [mode] => call.misused 1 s!"missing operand after {quoted mode}"
  | mode :: paths =>
    if (executableAfter mode false).isNone then call.misused 1 s!"invalid mode: {quoted mode}"
    else
      let isQuiet := options.any (·.contains 'f')
      Work.onAll call paths fun work path =>
        match work.files.locate path, work.files.find path with
        | .error failure, _ | _, .error failure =>
          if isQuiet then work
          else Work.complain call work s!"cannot access {quoted path}: {failure.description}"
        | .ok place, .ok (.file data executable) =>
          let executable := (executableAfter mode executable).getD executable
          work.done false (work.files.put place (.file data executable)) ""
        | .ok _, .ok _ => work

end CommandShell.Programs
