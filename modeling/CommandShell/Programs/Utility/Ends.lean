import CommandShell.Programs.Utility.Size

/-!
# Beginnings and Ends

The programs `head` and `tail`, which show the first or the last lines or bytes of what they read,
with a headline above each of several operands.
-/

namespace CommandShell.Programs

/-- What is to be shown of each operand. -/
structure Section where
  /-- Bytes are counted, not lines. -/
  ofBytes : Bool
  /-- How much is shown. -/
  extent : Extent
  deriving DecidableEq, Repr

namespace Section

/-- The bytes of some pieces at the beginning. -/
def ofFirst {α : Type} (extent : Extent) (pieces : List α) : List α :=
  match extent with
  | .some count => pieces.take count
  | .allBut count => pieces.take (pieces.length - count)

/-- The bytes of some pieces at the end; those that are left out are at the beginning. -/
def ofLast {α : Type} (extent : Extent) (pieces : List α) : List α :=
  match extent with
  | .some count => pieces.drop (pieces.length - count)
  | .allBut count => pieces.drop count

/-- The part at the beginning of some data. -/
def first (part : Section) (data : Bytes) : Bytes :=
  if part.ofBytes then ofFirst part.extent data
  else (ofFirst part.extent (linesWithEnds data)).flatten

/-- The part at the end of some data. -/
def last (part : Section) (data : Bytes) : Bytes :=
  if part.ofBytes then ofLast part.extent data
  else (ofLast part.extent (linesWithEnds data)).flatten

end Section

/-- The headlines above what is shown of several operands. -/
def withHeadlines : (isFirst : Bool) → List (String × Bytes) → Bytes
  | _, [] => []
  | isFirst, (path, data) :: rest =>
    let name := if path = "-" then "standard input" else path
    utf8 ((if isFirst then "" else "\n") ++ s!"==> {name} <==\n") ++ data ++
      withHeadlines false rest

/-- The long names of the options of `head` and `tail`. -/
def endFlags : List Flag :=
  flagsOf "qvz" "nc"
    [('n', "lines"), ('c', "bytes"), ('q', "quiet"), ('v', "verbose"), ('z', "zero-terminated")]

/-- Arguments with an old form of the count, `-3` or `-3c`, put as an option. -/
def withoutOldCount : List String → List String
  | [] => []
  | arg :: rest =>
    match arg.toList with
    | '-' :: chars =>
      let digits := chars.takeWhile Char.isDigit
      let letters := chars.drop digits.length
      if digits.isEmpty || letters.any (!"clqv".toList.contains ·) then arg :: rest
      else
        let count := String.ofList digits
        let unit := if letters.contains 'c' then "-c" else "-n"
        let quiet := if letters.contains 'q' then ["-q"] else []
        let verbose := if letters.contains 'v' then ["-v"] else []
        [unit, count] ++ quiet ++ verbose ++ rest
    | _ => arg :: rest

/-- Show a part of each operand. `extentOf` reads the count, and `work` takes the part. -/
def showEnds (call : Call) (args : List String) (extentOf : String → Option Extent)
    (work : Section → Bytes → Bytes) : Product :=
  let call := { call with args }
  call.parsed endFlags 1 fun arguments =>
    let unit := (arguments.last? ['n', 'c']).getD 'n'
    let given := (arguments.value? unit).getD "10"
    match extentOf given with
    | none =>
      let what := if unit = 'c' then "bytes" else "lines"
      call.refused 1 s!"invalid number of {what}: {quoted given}"
    | some extent =>
      let contents : Contents := call.contents arguments.operands
      let shown := contents.good.map fun (path, data) =>
        (path, withEnds (arguments.has 'z') (work ⟨unit = 'c', extent⟩) data)
      let isMany := arguments.operands.length > 1 && !arguments.has 'q'
      let output := if isMany || arguments.has 'v' then withHeadlines true shown
        else shown.flatMap (·.2)
      (call.reads arguments.operands (call.success output)).spoiled 1
        (call.complaintsAbout (fun path failure =>
          if failure = .system .isDirectory then
            s!"error reading {quoted path}: {failure.description}"
          else s!"cannot open {quoted path} for reading: {failure.description}") contents)

/-- Show the first lines or bytes, or all but the last ones if the count is negative. -/
def head : Utility := fun call =>
  showEnds call (withoutOldCount call.args) (fun text =>
    match text.toList with
    | '-' :: rest => (size? (String.ofList rest)).map .allBut
    | _ => (size? text).map .some) Section.first

/-- Arguments of `tail` with an old form of the first line to be shown put as an option. -/
def withoutOldStart : List String → List String
  | [] => []
  | arg :: rest =>
    match arg.toList with
    | '+' :: digits =>
      if !digits.isEmpty && digits.all Char.isDigit then ["-n", arg] ++ rest else arg :: rest
    | _ => withoutOldCount (arg :: rest)

/-- Show the last lines or bytes, or all from a position on if the count has a plus sign. -/
def tail : Utility := fun call =>
  showEnds call (withoutOldStart call.args) (fun text =>
    match text.toList with
    | '-' :: rest => (size? (String.ofList rest)).map .some
    | '+' :: rest => (size? (String.ofList rest)).map fun count => .allBut (count - 1)
    | _ => (size? text).map .some) Section.last

end CommandShell.Programs
