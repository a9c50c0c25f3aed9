import CommandShell.Programs.Regular.ByteSet

/-!
# Sets of Characters

The program `tr`, which replaces, deletes or squeezes characters. Its arguments are sets: characters
with escapes, ranges, classes, and characters that are repeated.
-/

namespace CommandShell.Programs

namespace CharSet

/-- An item of a set. -/
inductive Item where
  /-- A byte; `escaped` tells that it stands for itself in any case. -/
  | byte (b : UInt8) (escaped : Bool)
  /-- The bytes of a range. -/
  | range (first last : UInt8)
  /-- The bytes of a class. -/
  | named (name : String)
  /-- A byte that is repeated, as often as is needed if no count is given. -/
  | repeated (b : UInt8) (count : Nat)
  deriving DecidableEq, Repr

/-- A byte of a set, with its escape replaced; `true` tells that there was one. -/
def readByte : Bytes → Option (UInt8 × Bool × Bytes)
  | [] => none
  | 0x5C :: rest =>
    let isOctal (b : UInt8) : Bool := 0x30 ≤ b && b ≤ 0x37
    let value (digits : Bytes) : Nat := digits.foldl (fun n b => n * 8 + (b.toNat - 0x30)) 0
    let digits := (rest.takeWhile isOctal).take 3
    let digits := if value digits > 255 then digits.take 2 else digits
    match rest with
    | [] => some (0x5C, true, [])
    | b :: more =>
      if !digits.isEmpty then some (UInt8.ofNat (value digits), true, rest.drop digits.length)
      else
        let plain := (["a\x07", "b\x08", "f\x0c", "n\n", "r\x0d", "t\t", "v\x0b"].map utf8).find?
          fun pair => pair.head? = some b
        some ((plain.bind (·[1]?)).getD b, true, more)
  | b :: rest => some (b, false, rest)

/-- Read an item in brackets: a class, a class of one byte, or a repeated byte. -/
def readBracket (text : Bytes) : Option (Item × Bytes) :=
  match text with
  | 0x5B :: 0x3A :: rest =>
    let name := rest.takeWhile (· != 0x3A)
    match rest.drop name.length with
    | 0x3A :: 0x5D :: rest => some (.named (lossyText name), rest)
    | _ => none
  | 0x5B :: 0x3D :: b :: 0x3D :: 0x5D :: rest => some (.byte b true, rest)
  | 0x5B :: rest =>
    match readByte rest with
    | some (b, _, 0x2A :: rest) =>
      let digits := rest.takeWhile isDigitByte
      match rest.drop digits.length with
      | 0x5D :: rest =>
        let base := if digits.head? = some 0x30 then 8 else 10
        let count := digits.foldl (fun n d => n * base + (d.toNat - 0x30)) 0
        some (.repeated b count, rest)
      | _ => none
    | _ => none
  | _ => none

/-- Read the items of a set; `fuel` bounds their number. -/
def readItems : (fuel : Nat) → Bytes → List Item
  | 0, _ => []
  | fuel + 1, text =>
    match readBracket text, readByte text with
    | some (item, rest), _ => item :: readItems fuel rest
    | none, none => []
    | none, some (first, escaped, rest) =>
      match rest with
      | 0x2D :: after =>
        match readByte after with
        | some (last, _, rest) => .range first last :: readItems fuel rest
        | none => .byte first escaped :: readItems fuel rest
      | _ => .byte first escaped :: readItems fuel rest

/-- The items of a set. -/
def items (text : String) : List Item :=
  let bytes := utf8 text
  readItems bytes.length bytes

/-- The bytes that an item stands for; a repeated one without a count stands for `fill`. -/
def members (fill : Nat) : Item → Bytes
  | .byte b _ => [b]
  | .range first last =>
    (List.range (last.toNat + 1 - first.toNat)).map fun i => first + UInt8.ofNat i
  | .named name => (classMembers? name).getD []
  | .repeated b count => List.replicate (if count = 0 then fill else count) b

/-- The bytes that items stand for, so many in all if a repeated byte fills them up. -/
def expanded (length : Nat) (items : List Item) : Bytes :=
  let fixed := (items.flatMap (members 0)).length
  items.flatMap (members (length - fixed))

/-- What is wrong with the items of a set, if anything. -/
def fault? (items : List Item) : Option String :=
  items.findSome? fun
    | .range first last =>
      if last < first then
        let shown (b : UInt8) : String := lossyText [b]
        some <| s!"range-endpoints of '{shown first}-{shown last}' are " ++
          "in reverse collating sequence order"
      else none
    | .named name =>
      if (byteClasses.lookup name).isSome then none
      else some s!"invalid character class '{name}'"
    | _ => none

/-- The classes of letters in one case that items name, with the positions of their first
members. -/
def caseClasses : (position : Nat) → List Item → List (Nat × String)
  | _, [] => []
  | position, item :: rest =>
    let others := caseClasses (position + (members 0 item).length) rest
    match item with
    | .named name => if name = "upper" || name = "lower" then (position, name) :: others else others
    | _ => others

/-- What is wrong with the second set of a replacement, if anything: classes in it are those of
letters in one case, opposite to such a class in the first set. -/
def targetFault? (source target : List Item) : Option String :=
  let isCased (name : String) : Bool := name = "upper" || name = "lower"
  let isForeign : Item → Bool
    | .named name => !isCased name
    | _ => false
  let places := (caseClasses 0 source).map (·.1)
  if target.any isForeign then
    some <| "when translating, the only character classes that may appear in\n" ++
      "string2 are 'upper' and 'lower'"
  else if (caseClasses 0 target).all fun (position, _) => places.contains position then none
  else some "misaligned [:upper:] and/or [:lower:] construct"

end CharSet

/-- Replace a byte of the first set by the one in the same place of the second, whose last one is
repeated. -/
def replaceByte (source target : Bytes) (b : UInt8) : UInt8 :=
  match source.reverse.idxOf? b with
  | none => b
  | some fromEnd => (target[source.length - 1 - fromEnd]?).getD (target.getLastD b)

/-- Leave out bytes of a set that repeat the one before. -/
def squeeze (set : Bytes) : Bytes → Bytes
  | [] => []
  | [b] => [b]
  | a :: b :: rest =>
    if a = b && set.contains a then squeeze set (b :: rest) else a :: squeeze set (b :: rest)

/-- Replace characters, delete them with `-d`, or squeeze repeats with `-s`. -/
def tr : Utility := fun call =>
  let flags := flagsOf "cCdst" ""
    [('c', "complement"), ('d', "delete"), ('s', "squeeze-repeats"), ('t', "truncate-set1")]
  match Arguments.readLeading flags call.args with
  | .error text => call.misused 1 text
  | .ok arguments =>
    let isDeleting := arguments.has 'd'
    let isSqueezing := arguments.has 's'
    let inverted := arguments.has 'c' || arguments.has 'C'
    let setOf (items : List CharSet.Item) : Bytes :=
      let set := CharSet.expanded 0 items
      if inverted then allBytes.filter (!set.contains ·) else set
    let sets := arguments.operands.map CharSet.items
    match sets.findSome? CharSet.fault?, sets with
    | some text, _ => call.refused 1 text
    | none, [] => call.lacking 1
    | none, [only] =>
      let set := setOf only
      if isDeleting && !isSqueezing then
        (call.success (call.input.filter (!set.contains ·))).exhausted
      else if isSqueezing && !isDeleting then (call.success (squeeze set call.input)).exhausted
      else
        let name := arguments.operands.headD ""
        let more := if isDeleting then
            "\nTwo strings must be given when both deleting and squeezing repeats."
          else "\nTwo strings must be given when translating."
        call.misused 1 (s!"missing operand after {quoted name}" ++ more)
    | none, [first, second] =>
      let source := setOf first
      let target := CharSet.expanded source.length second
      if isDeleting && !isSqueezing then
        let extra := arguments.operands.getLastD ""
        call.misused 1 <| s!"extra operand {quoted extra}\n" ++
          "Only one string may be given when deleting without squeezing repeats."
      else if isDeleting then
        (call.success (squeeze target (call.input.filter (!source.contains ·)))).exhausted
      else if target.isEmpty && !arguments.has 't' then
        call.refused 1 "when not truncating set1, string2 must be non-empty"
      else if let some text := CharSet.targetFault? first second then call.refused 1 text
      else
        let source := if arguments.has 't' then source.take target.length else source
        let replaced := call.input.map (replaceByte source target)
        (call.success (if isSqueezing then squeeze target replaced else replaced)).exhausted
    | none, _ => call.unneeded 1 ((arguments.operands[2]?).getD "")

end CommandShell.Programs
