import CommandShell.Programs.Utility.Size

/-!
# Names of Files

Programs that take the names of files apart or complete them, without regard to what is there.
-/

namespace CommandShell.Programs

/-- A path without slashes at its end; the root stays. -/
def withoutLastSlashes (path : List Char) : List Char :=
  let kept := (path.reverse.dropWhile (· == '/')).reverse
  if kept.isEmpty && !path.isEmpty then ['/'] else kept

/-- The last part of a path. -/
def baseOf (path : String) : String :=
  let path := withoutLastSlashes path.toList
  if path = ['/'] then "/"
  else String.ofList (path.reverse.takeWhile (· != '/')).reverse

/-- A path without its last part. -/
def directoryOf (path : String) : String :=
  let path := withoutLastSlashes path.toList
  let above := (path.reverse.dropWhile (· != '/')).reverse
  if path = ['/'] then "/"
  else if above.isEmpty then "."
  else String.ofList (withoutLastSlashes above)

/-- A name without an end, unless nothing would be left. -/
def withoutEnding (ending name : String) : String :=
  if !ending.isEmpty && name.endsWith ending && name != ending then
    (name.dropEnd ending.length).toString
  else name

/-- Print the last parts of paths, without an ending if one is given. -/
def basename : Utility := fun call =>
  let flags := flagsOf "az" "s" [('a', "multiple"), ('z', "zero"), ('s', "suffix")]
  match Arguments.readLeading flags call.args with
  | .error text => call.misused 1 text
  | .ok arguments =>
    let ending := if arguments.has 'z' then "\x00" else "\n"
    let shown (suffix : String) (paths : List String) : Product :=
      call.success (utf8 (String.join (paths.map fun path =>
        withoutEnding suffix (baseOf path) ++ ending)))
    if arguments.has 'a' || arguments.has 's' then
      if arguments.operands.isEmpty then call.lacking 1
      else shown ((arguments.value? 's').getD "") arguments.operands
    else
      match arguments.operands with
      | [] => call.lacking 1
      | [path] => shown "" [path]
      | [path, suffix] => shown suffix [path]
      | _ :: _ :: extra :: _ => call.unneeded 1 extra

/-- Print paths without their last parts. -/
def dirname : Utility := fun call =>
  let flags := flagsOf "z" "" [('z', "zero")]
  match Arguments.readLeading flags call.args with
  | .error text => call.misused 1 text
  | .ok arguments =>
    let ending := if arguments.has 'z' then "\x00" else "\n"
    if arguments.operands.isEmpty then call.lacking 1
    else
      call.success (utf8 (String.join (arguments.operands.map fun path =>
        directoryOf path ++ ending)))

/-- Print the places that paths lead to; all but the last part must exist. -/
def realpath : Utility := fun call =>
  call.parsed (flagsOf "emsqz" "" []) 1 fun arguments =>
    if arguments.operands.isEmpty then call.lacking 1
    else
      let found := arguments.operands.map fun path =>
        match call.files.locate path with
        | .ok place =>
          if arguments.has 'e' && (call.files.entryAt? place).isNone then
            ([], call.complaint (Call.plainly path (.system .noEntry)))
          else (utf8 (Files.pathOf place ++ "\n"), [])
        | .error failure => ([], call.complaint (Call.plainly path failure))
      (call.success (found.flatMap (·.1))).spoiled 1 (found.flatMap (·.2))

/-- Print where links lead to: there are none, but a path can be completed with `-f`. -/
def readlink : Utility := fun call =>
  call.parsed (flagsOf "femnqsvz" "" []) 1 fun arguments =>
    match arguments.operands with
    | [] => call.lacking 1
    | paths =>
      let found := paths.map fun path =>
        match ['f', 'e', 'm'].any arguments.has, call.files.locate path with
        | true, .ok place =>
          if arguments.has 'e' && (call.files.entryAt? place).isNone then none
          else some (utf8 (Files.pathOf place ++ "\n"))
        | _, _ => none
      call.ended (if found.all (·.isSome) then 0 else 1) (found.filterMap id).flatten

end CommandShell.Programs
