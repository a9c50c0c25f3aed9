import CommandShell.Programs.Utility.Order
import CommandShell.Programs.Utility.Size

/-!
# Sorting

Programs that put lines in order (`sort`), leave out repeated lines (`uniq`) and compare lines that
are in order (`comm`).
-/

namespace CommandShell.Programs

/-- How lines are sorted. -/
structure Sorting where
  /-- The separator of fields. -/
  separator : Option UInt8
  /-- The keys; without any, lines are compared as wholes. -/
  keys : List SortKey
  /-- Lines that are the same by their keys are also compared as wholes. -/
  lastResort : Bool
  /-- The whole order is turned around. -/
  reversed : Bool
  deriving DecidableEq, Repr

namespace Sorting

/-- Compare two lines. -/
def compare (sorting : Sorting) (a b : Bytes) : Ordering :=
  let byKeys := compareByKeys sorting.separator a b sorting.keys
  if sorting.keys.isEmpty || (byKeys = .eq && sorting.lastResort) then
    let order := Order.ofBytes a b
    if sorting.reversed then order.swap else order
  else byKeys

/-- Leave out lines that are the same as the one before. -/
def withoutRepeats (sorting : Sorting) : List Bytes → List Bytes
  | [] => []
  | [line] => [line]
  | a :: b :: rest =>
    if sorting.compare a b = .eq then withoutRepeats sorting (a :: rest)
    else a :: withoutRepeats sorting (b :: rest)
termination_by lines => lines.length

/-- The first line that is not in order, with its number; `strict` wants lines to differ. -/
def disorder? (sorting : Sorting) (strict : Bool) : (number : Nat) → List Bytes →
    Option (Nat × Bytes)
  | _, [] | _, [_] => none
  | number, a :: b :: rest =>
    let order := sorting.compare a b
    if order = .gt || (strict && order = .eq) then some (number + 1, b)
    else sorting.disorder? strict (number + 1) (b :: rest)

end Sorting

/-- Put the lines of operands in order. -/
def sort : Utility := fun call =>
  let flags := flagsOf "bdfghiMnRrVcCmsuz" "koSTt"
    [('b', "ignore-leading-blanks"), ('d', "dictionary-order"), ('f', "ignore-case"),
      ('g', "general-numeric-sort"), ('h', "human-numeric-sort"), ('i', "ignore-nonprinting"),
      ('M', "month-sort"), ('n', "numeric-sort"), ('r', "reverse"), ('V', "version-sort"),
      ('c', "check"), ('m', "merge"), ('s', "stable"), ('u', "unique"), ('z', "zero-terminated"),
      ('k', "key"), ('o', "output"), ('t', "field-separator")]
  call.parsed flags 2 fun arguments =>
    let ranking := arguments.given.foldl (fun (ranking : Ranking) (letter, _) =>
      if letter = 'r' then ranking else (ranking.with? false letter).getD ranking) .plain
    let ranking := { ranking with skipsEndBlanks := ranking.skipsBlanks }
    let reversed := arguments.has 'r'
    let usual := { ranking with reversed }
    match (arguments.values 'k').mapM (SortKey.read? usual), arguments.value? 't' with
    | none, _ => call.refused 2 "invalid field specification"
    | some _, some "" => call.refused 2 "empty tab"
    | some keys, tab =>
      let separator : Option UInt8 := if tab = some "\\0" then some 0
        else tab.bind fun text => (utf8 text).head?
      if (tab.any fun text => text.utf8ByteSize > 1 && text != "\\0") then
        let shown := quoted (tab.getD "")
        call.refused 2 s!"multi-character tab {shown}"
      else
        let keys := if keys.isEmpty && ranking != .plain then [⟨0, 0, none, 0, usual⟩] else keys
        let isUnique := arguments.has 'u'
        let sorting : Sorting :=
          ⟨separator, keys, !(isUnique || arguments.has 's'), reversed⟩
        let contents : Contents := call.contents arguments.operands
        let complaints := call.complaintsAbout (fun path failure =>
          let verb := if failure = .system .isDirectory then "read failed" else "cannot read"
          s!"{verb}: {quotedIfNeeded path}: {failure.description}") contents
        let isZero := arguments.has 'z'
        let ending : UInt8 := if isZero then 0 else Input.newline
        let lines := contents.good.flatMap fun (_, data) =>
          if isZero then (linesOf (exchangeEnds data)).map exchangeEnds else linesOf data
        if !complaints.isEmpty then
          call.reads arguments.operands { call.ended 2 [] with complaints }
        else if arguments.has 'c' || arguments.has 'C' then
          match sorting.disorder? isUnique 1 lines with
          | none => call.reads arguments.operands (call.success [])
          | some (number, line) =>
            let name := arguments.operands.headD "-"
            let complaint := utf8 s!"{call.name}: {name}:{number}: disorder: " ++ line ++
              [Input.newline]
            let complaints := if arguments.has 'C' then [] else complaint
            call.reads arguments.operands { call.ended 1 [] with complaints }
        else
          let sorted := lines.mergeSort fun a b => sorting.compare a b != .gt
          let sorted := if isUnique then sorting.withoutRepeats sorted else sorted
          let output := sorted.flatMap (· ++ [ending])
          match arguments.value? 'o' with
          | none => call.reads arguments.operands (call.success output)
          | some path =>
            match call.files.write path output with
            | .ok files => { call.reads arguments.operands (call.success []) with files }
            | .error failure =>
              call.refused 2 s!"open failed: {quotedIfNeeded path}: {failure.description}"

/-- Lines that are the same, one after the other, as groups; `same` compares their keys. -/
def groupLines (same : Bytes → Bytes → Bool) : List Bytes → List (List Bytes)
  | [] => []
  | line :: rest =>
    match groupLines same rest with
    | [] => [[line]]
    | group :: others =>
      if group.head?.any (same line ·) then (line :: group) :: others
      else [line] :: group :: others

/-- Which empty lines `uniq` puts around the groups that it shows. -/
structure GroupEnds where
  /-- Before the first group. -/
  before : Bool
  /-- Between groups. -/
  between : Bool
  /-- After the last group. -/
  after : Bool
  deriving DecidableEq, Repr

namespace GroupEnds

/-- The places that a word names. -/
def ofWord? : String → Option GroupEnds
  | "none" => some ⟨false, false, false⟩
  | "prepend" => some ⟨true, true, false⟩
  | "append" => some ⟨false, true, true⟩
  | "separate" => some ⟨false, true, false⟩
  | "both" => some ⟨true, true, true⟩
  | _ => none

/-- The lines of groups with the empty lines around them. -/
def lines (ends : GroupEnds) (groups : List (List Bytes)) : List Bytes :=
  let gap (isThere : Bool) : List Bytes := if isThere && !groups.isEmpty then [[]] else []
  gap ends.before ++ (gap ends.between).intercalate groups ++ gap ends.after

end GroupEnds

/-- Keep one line of each group of lines that are the same, or groups of one kind only. -/
def uniq : Utility := fun call =>
  let flags := flagsOf "cdDiuz" "fsw"
    [('c', "count"), ('d', "repeated"), ('i', "ignore-case"), ('u', "unique"),
      ('f', "skip-fields"), ('s', "skip-chars"), ('w', "check-chars"), ('z', "zero-terminated")]
  let flags := flags ++ flagsAttached [('A', "all-repeated"), ('G', "group")]
  call.parsed flags 1 fun arguments =>
    let counts := ['f', 's', 'w'].map fun letter => (arguments.value? letter).map (·.toNat?)
    let endsOf (letter : Char) (usual : String) : Option GroupEnds :=
      let word := (arguments.value? letter).getD usual
      GroupEnds.ofWord? (if word.isEmpty then usual else word)
    match counts, arguments.operands, endsOf 'A' "none", endsOf 'G' "separate" with
    | [some none, _, _], _, _, _ => call.refused 1 "invalid number of fields to skip"
    | [_, some none, _], _, _, _ => call.refused 1 "invalid number of bytes to skip"
    | [_, _, some none], _, _, _ => call.refused 1 "invalid number of bytes to compare"
    | _, _ :: _ :: extra :: _, _, _ => call.unneeded 1 extra
    | _, _, none, _ => call.refused 1 "invalid argument for '--all-repeated'"
    | _, _, _, none => call.refused 1 "invalid argument for '--group'"
    | [fields, bytes, width], operands, some endsOfAll, some endsOfGroups =>
      let keyOf (line : Bytes) : Bytes :=
        let rest := SortKey.skipFields none ((fields.bind id).getD 0) line
        let rest := rest.drop ((bytes.bind id).getD 0)
        let rest := ((width.bind id).map rest.take).getD rest
        if arguments.has 'i' then rest.map upperByte else rest
      let shown (group : List Bytes) : List Bytes :=
        let count := group.length
        let isRepeated := count > 1
        if (arguments.has 'd' && !isRepeated) || (arguments.has 'u' && isRepeated) then []
        else if arguments.has 'c' then
          (group.take 1).map fun line => utf8 (padded 7 (toString count) ++ " ") ++ line
        else group.take 1
      let work (data : Bytes) : Bytes :=
        let groups := groupLines (fun a b => keyOf a == keyOf b) (linesOf data)
        unlines
          (if arguments.has 'G' then endsOfGroups.lines groups
          else if arguments.has 'D' || arguments.has 'A' then
            endsOfAll.lines (groups.filter fun group => group.length > 1 && !arguments.has 'u')
          else groups.flatMap shown)
      if arguments.has 'G' && (['c', 'd', 'D', 'A', 'u'].any arguments.has) then
        call.misused 1 "--group is mutually exclusive with -c/-d/-D/-u"
      else if arguments.has 'c' && (arguments.has 'D' || arguments.has 'A') then
        call.misused 1 "printing all duplicated lines and repeat counts is meaningless"
      else
        let product := call.onContents 1 (operands.take 1) (withEnds (arguments.has 'z') work)
        match operands with
        | [_, target] =>
          if target = "-" then product
          else
            match call.files.write target product.output with
            | .ok files => { product with output := [], files }
            | .error failure => call.refused 1 (Call.plainly target failure)
        | _ => product
    | _, _, _, _ => call.success []

/-- How `comm` shows lines. -/
structure Comparing where
  /-- Which of the columns are shown. -/
  columns : List Nat
  /-- What stands between columns. -/
  delimiter : Bytes
  deriving DecidableEq, Repr

/-- A line in a column: the columns before it that are shown are empty. -/
def Comparing.line (comparing : Comparing) (column : Nat) (line : Bytes) : Bytes :=
  if !comparing.columns.contains column then []
  else
    let before := comparing.columns.filter (· < column)
    before.flatMap (fun _ => comparing.delimiter) ++ line ++ [Input.newline]

/-- The next line of two files in order, with the column it belongs to, and what is left of the
files. -/
def nextInOrder? : List Bytes → List Bytes → Option ((Nat × Bytes) × List Bytes × List Bytes)
  | [], [] => none
  | [], b :: bs => some ((2, b), [], bs)
  | a :: as, [] => some ((1, a), as, [])
  | a :: as, b :: bs =>
    match Order.ofBytes a b with
    | .lt => some ((1, a), as, b :: bs)
    | .gt => some ((2, b), a :: as, bs)
    | .eq => some ((3, a), as, bs)

/-- Lines of two files in order, side by side, each with the column it belongs to; with `strict`
they end where a file turns out not to be in order. `fuel` bounds the number of steps. -/
def mergeColumns (strict : Bool) : (fuel : Nat) → List Bytes → List Bytes → List (Nat × Bytes)
  | 0, _, _ => []
  | fuel + 1, as, bs =>
    match nextInOrder? as bs with
    | none => []
    | some (line, as, bs) =>
      let isWrong (lines : List Bytes) : Bool :=
        lines.head?.any fun next => Order.ofBytes line.2 next = .gt
      let hasLeft := (line.1 != 2 && isWrong as) || (line.1 != 1 && isWrong bs)
      line :: if strict && hasLeft then [] else mergeColumns strict fuel as bs

/-- How many lines of each column there are, as a line. -/
def Comparing.total (comparing : Comparing) (lines : List (Nat × Bytes)) : Bytes :=
  let counts := [1, 2, 3].map fun column =>
    utf8 (toString (lines.filter (·.1 == column)).length)
  comparing.delimiter.intercalate (counts ++ [utf8 "total"]) ++ [Input.newline]

/-- The lines are in the order of their bytes. -/
def isInOrder : List Bytes → Bool
  | [] | [_] => true
  | a :: b :: rest => Order.ofBytes a b != .gt && isInOrder (b :: rest)

/-- Show which lines of two files in order are only in one of them, and which in both. -/
def comm : Utility := fun call =>
  let flags := flagsOf "123znCT" "d"
    [('d', "output-delimiter"), ('n', "nocheck-order"), ('C', "check-order"), ('T', "total"),
      ('z', "zero-terminated")]
  call.parsed flags 1 fun arguments =>
    match arguments.operands with
    | [] => call.lacking 1
    | [only] => call.misused 1 s!"missing operand after {quoted only}"
    | _ :: _ :: extra :: _ => call.unneeded 1 extra
    | operands =>
      let contents : Contents := call.contents operands
      match contents.good with
      | [(_, first), (_, second)] =>
        let columns := [(1, '1'), (2, '2'), (3, '3')].filter fun (_, c) => !arguments.has c
        let comparing : Comparing :=
          ⟨columns.map (·.1), utf8 ((arguments.value? 'd').getD "\t")⟩
        let isZero := arguments.has 'z'
        let split (data : Bytes) : List Bytes :=
          if isZero then (linesOf (exchangeEnds data)).map exchangeEnds else linesOf data
        let as := split first
        let bs := split second
        let merged := mergeColumns (arguments.has 'C') (as.length + bs.length + 1) as bs
        let ended (line : Bytes) : Bytes :=
          if isZero && !line.isEmpty then line.dropLast ++ [0] else line
        let output := merged.flatMap (fun (column, line) => ended (comparing.line column line)) ++
          (if arguments.has 'T' then ended (comparing.total merged) else [])
        let complaints :=
          if arguments.has 'n' || as = bs then []
          else
            (if isInOrder as then [] else call.complaint "file 1 is not in sorted order") ++
            (if isInOrder bs then [] else call.complaint "file 2 is not in sorted order")
        let complaints := if complaints.isEmpty then []
          else complaints ++ call.complaint "input is not in sorted order"
        (call.reads operands (call.success output)).spoiled 1 complaints
      | _ =>
        (call.reads operands (call.success [])).spoiled 1
          ((call.complaintsAbout Call.plainly contents).takeWhile (· != Input.newline) ++
            [Input.newline])

end CommandShell.Programs
