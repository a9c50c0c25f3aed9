import CommandShell.Programs.Utility.Size

/-!
# Listings

The program `ls`, which lists the entries of directories by name.
-/

namespace CommandShell.Programs

/-- How `ls` lists entries. -/
structure Listing where
  /-- Entries whose names begin with a dot are listed too. -/
  hidden : Bool
  /-- The directory itself and the one above are listed too. -/
  dots : Bool
  /-- Directories are listed as entries. -/
  itself : Bool
  /-- The order is turned around. -/
  reversed : Bool
  /-- Large files come first. -/
  bySize : Bool
  /-- Directories below directories are listed too. -/
  deep : Bool
  /-- Signs after names tell what they are: of all entries, or of directories only. -/
  signs : Option Bool
  /-- Names are separated by commas. -/
  commas : Bool
  deriving DecidableEq, Repr

namespace Listing

/-- The size of an entry, as far as it matters. -/
def sizeOf : Option Entry → Nat
  | some (.file data _) | some (.torn data _) => data.length
  | some (.locked _) => 0
  | some .directory => 4096
  | none => 0

/-- Names in the order in which they are listed; `entry` tells what each one is. -/
def ordered (listing : Listing) (entry : String → Option Entry) (names : List String) :
    List String :=
  let byName := names.mergeSort fun a b => a ≤ b
  let sorted := if listing.bySize then
      byName.mergeSort fun a b => sizeOf (entry a) ≥ sizeOf (entry b)
    else byName
  if listing.reversed then sorted.reverse else sorted

/-- A name with the sign that tells what it is. -/
def shown (listing : Listing) (entry : Option Entry) (name : String) : String :=
  match listing.signs, entry with
  | some _, some .directory => name ++ "/"
  | some true, some (.file _ true) => name ++ "*"
  | _, _ => name

/-- Names, each on a line or all on one with commas. -/
def lines (listing : Listing) (names : List String) : String :=
  if listing.commas then
    if names.isEmpty then "" else ", ".intercalate names ++ "\n"
  else String.join (names.map (· ++ "\n"))

/-- The names of a directory in the order in which they are listed. -/
def namesIn (listing : Listing) (files : Files) (place : Place) : List String :=
  let names := files.names place
  let kept := if listing.hidden then names else names.filter (!·.startsWith ".")
  let kept := if listing.dots then "." :: ".." :: kept else kept
  listing.ordered (fun name =>
    if name = "." || name = ".." then some .directory else files.entryAt? (place ++ [name])) kept

/-- What is listed of a directory. -/
def ofDirectory (listing : Listing) (files : Files) (place : Place) : String :=
  listing.lines ((listing.namesIn files place).map fun name =>
    let entry := if name = "." || name = ".." then some .directory
      else files.entryAt? (place ++ [name])
    listing.shown entry name)

/-- Directories with those below them, in the order in which they are listed; `fuel` bounds how
deep directories are. -/
def directories (listing : Listing) (files : Files) : (fuel : Nat) → String × Place →
    List (String × Place)
  | 0, top => [top]
  | fuel + 1, (path, place) =>
    let inner := (listing.namesIn files place).filter fun name =>
      name != "." && name != ".." && files.entryAt? (place ++ [name]) = some .directory
    (path, place) :: inner.flatMap fun name =>
      listing.directories files fuel (path ++ "/" ++ name, place ++ [name])

end Listing

/-- List operands: files first, then what is in directories. -/
def ls : Utility := fun call =>
  let flags := flagsOf "aAdrR1FpmStUCxqNbQicfgGhlnosuvXZLHk" "Iw"
    [('a', "all"), ('A', "almost-all"), ('d', "directory"), ('r', "reverse"), ('R', "recursive"),
      ('F', "classify"), ('G', "no-group")]
  call.parsed flags 2 fun arguments =>
    let listing : Listing :=
      { hidden := arguments.has 'a' || arguments.has 'A' || arguments.has 'f'
        dots := arguments.has 'a' || arguments.has 'f'
        itself := arguments.has 'd', reversed := arguments.has 'r'
        bySize := arguments.has 'S', deep := arguments.has 'R'
        signs := if arguments.has 'F' then some true else if arguments.has 'p' then some false
          else none
        commas := arguments.last? ['m', '1', 'C', 'x'] = some 'm' }
    let paths := if arguments.operands.isEmpty then ["."] else arguments.operands
    let found : List (String × Except Failure (Place × Entry)) := paths.map fun path => (path, do
      let place ← call.files.locate path
      let entry ← call.files.find path
      return (place, entry))
    let complaints := found.flatMap fun
      | (path, .error failure) =>
        call.complaint s!"cannot access {quoted path}: {Failure.description failure}"
      | (_, .ok _) => []
    let good := found.filterMap fun
      | (path, .ok (place, entry)) => some (path, place, entry)
      | (_, .error _) => none
    let isFile (entry : Entry) : Bool := entry != .directory || listing.itself
    let entryOf (path : String) : Option Entry := (good.lookup path).map (·.2)
    let fileNames := listing.ordered entryOf
      ((good.filter fun (_, _, entry) => isFile entry).map (·.1))
    let directoryNames := listing.ordered entryOf
      ((good.filter fun (_, _, entry) => !isFile entry).map (·.1))
    let first := listing.lines (fileNames.map fun name => listing.shown (entryOf name) name)
    let tops := directoryNames.filterMap fun name =>
      (good.lookup name).map fun (place, _) => (name, place)
    let all := if listing.deep then tops.flatMap (listing.directories call.files 40) else tops
    let isNamed := paths.length > 1 || listing.deep
    let blocks := all.map fun (path, place) =>
      (if isNamed then path ++ ":\n" else "") ++ listing.ofDirectory call.files place
    let blocks := if first.isEmpty then blocks else first :: blocks
    (call.success (utf8 ("\n".intercalate blocks))).spoiled 2 complaints

end CommandShell.Programs
