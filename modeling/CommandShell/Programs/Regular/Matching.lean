import CommandShell.Programs.Regular.Syntax

/-!
# Matching Regular Expressions

Where a regular expression matches in a text: as far to the left as possible, and there as much as
possible. The parts of the expression then share out what is matched, the first ones taking as much
as they can. An expression in which the text of a group occurs once more is matched by trying.
-/

namespace CommandShell.Programs.Regular

/-- A text in which matches are looked for. -/
structure Subject where
  /-- The bytes of the text. -/
  bytes : Array UInt8
  /-- The beginnings and ends of lines are also those around newlines in the text. -/
  multiLine : Bool
  /-- The case of letters does not matter. -/
  folds : Bool
  deriving DecidableEq, Repr

/-- The places of groups: their numbers with where they begin and end, the last one first. -/
abbrev Captures := List (Nat × Nat × Nat)

namespace Subject

/-- A byte of a word stands in a position. -/
def isWordAt (subject : Subject) (position : Nat) : Bool :=
  (subject.bytes[position]?).any isWordByte

/-- A byte of a word stands before a position. -/
def isWordBefore (subject : Subject) (position : Nat) : Bool :=
  position != 0 && subject.isWordAt (position - 1)

/-- A position is a boundary of some kind. -/
def isAt (subject : Subject) (position : Nat) : Boundary → Bool
  | .lineStart =>
    position = 0 || (subject.multiLine && subject.bytes[position - 1]? = some Input.newline)
  | .lineEnd =>
    position = subject.bytes.size ||
      (subject.multiLine && subject.bytes[position]? = some Input.newline)
  | .textStart => position = 0
  | .textEnd => position = subject.bytes.size
  | .wordStart => subject.isWordAt position && !subject.isWordBefore position
  | .wordEnd => !subject.isWordAt position && subject.isWordBefore position
  | .wordEdge => subject.isWordAt position != subject.isWordBefore position
  | .noWordEdge => subject.isWordAt position == subject.isWordBefore position

/-- Positions in ascending order, put together. -/
def merge : List Nat → List Nat → List Nat
  | [], bs => bs
  | as, [] => as
  | a :: as, b :: bs =>
    if a < b then a :: merge as (b :: bs)
    else if b < a then b :: merge (a :: as) bs
    else a :: merge as bs
termination_by as bs => as.length + bs.length

/-- Positions that some of the given ones lead to by any number of steps up to a bound: `all` are
those that have been reached, `latest` those from which to go on. -/
def closure (step : List Nat → List Nat) : (bound : Nat) → (all latest : List Nat) → List Nat
  | 0, all, _ => all
  | bound + 1, all, latest =>
    let next := (step latest).filter (!all.contains ·)
    if next.isEmpty then all else closure step bound (merge all next) next

/-- Do a step so many times. -/
def iterated (step : List Nat → List Nat) : Nat → List Nat → List Nat
  | 0, positions => positions
  | n + 1, positions => iterated step n (step positions)

/-- Where matches end that begin in some positions, in ascending order. -/
def ends (subject : Subject) : Regular → List Nat → List Nat
  | .empty, positions => positions
  | .byte set, positions =>
    (positions.filter fun p => (subject.bytes[p]?).any set.has).map (· + 1)
  | .place boundary, positions => positions.filter (subject.isAt · boundary)
  | .again _, positions => positions
  | .group _ body, positions => subject.ends body positions
  | .both first second, positions =>
    let middle := subject.ends first positions
    if middle.isEmpty then [] else subject.ends second middle
  | .either first second, positions =>
    merge (subject.ends first positions) (subject.ends second positions)
  | .times body least most, positions =>
    let reached := iterated (subject.ends body) least positions
    let bound := (most.map (· - least)).getD (subject.bytes.size + 1)
    closure (subject.ends body) bound reached reached

/-- The groups of a match from one position to another one, where each part takes as much as it
can; `fuel` bounds the number of steps. -/
def share (subject : Subject) : (fuel : Nat) → Regular → (start stop : Nat) → Captures → Captures
  | 0, _, _, _, captures => captures
  | fuel + 1, regular, start, stop, captures =>
    match regular with
    | .group number body => subject.share fuel body start stop ((number, start, stop) :: captures)
    | .either first second =>
      if (subject.ends first [start]).contains stop then
        subject.share fuel first start stop captures
      else subject.share fuel second start stop captures
    | .both first second =>
      let middle := (subject.ends first [start]).reverse.find? fun p =>
        (subject.ends second [p]).contains stop
      match middle with
      | none => captures
      | some middle =>
        subject.share fuel second middle stop (subject.share fuel first start middle captures)
    | .times body least most =>
      let rest := Regular.times body (least - 1) (most.map (· - 1))
      let middle := if most = some 0 then none
        else (subject.ends body [start]).reverse.find? fun p =>
          (p != start || least != 0) && (subject.ends rest [p]).contains stop
      match middle with
      | none => captures
      | some middle =>
        let captures := subject.share fuel body start middle captures
        if middle = stop && least ≤ 1 then captures
        else subject.share fuel rest middle stop captures
    | .empty | .byte _ | .place _ | .again _ => captures

/-- The text of a group stands in a position once more: where it ends. -/
def repeated? (subject : Subject) (captures : Captures) (group position : Nat) : Option Nat := do
  let (start, stop) ← captures.lookup group
  let size := stop - start
  let same (i : Nat) : Bool :=
    match subject.bytes[start + i]?, subject.bytes[position + i]? with
    | some a, some b => a == b || (subject.folds && upperByte a == upperByte b)
    | _, _ => false
  if (List.range size).all same then some (position + size) else none

/-- Try to match something so many times, more times first; `fuel` bounds their number. -/
def tryTimes (step : Nat → Captures → (Nat → Captures → Option Captures) → Option Captures)
    (least : Nat) (most : Option Nat) : (fuel count position : Nat) → Captures →
    (Nat → Captures → Option Captures) → Option Captures
  | 0, _, position, captures, goOn => goOn position captures
  | fuel + 1, count, position, captures, goOn =>
    if count < least then
      step position captures fun next captures =>
        tryTimes step least most fuel (count + 1) next captures goOn
    else if most.any (· ≤ count) then goOn position captures
    else
      (step position captures fun next captures =>
        if next = position then none
        else tryTimes step least most fuel (count + 1) next captures goOn).orElse
      fun _ => goOn position captures

/-- Try to match in a position and to go on after it. -/
def tryMatch (subject : Subject) : Regular → (position : Nat) → Captures →
    (Nat → Captures → Option Captures) → Option Captures
  | .empty, position, captures, goOn => goOn position captures
  | .byte set, position, captures, goOn =>
    if (subject.bytes[position]?).any set.has then goOn (position + 1) captures else none
  | .place boundary, position, captures, goOn =>
    if subject.isAt position boundary then goOn position captures else none
  | .again number, position, captures, goOn =>
    (subject.repeated? captures number position).bind fun next => goOn next captures
  | .group number body, position, captures, goOn =>
    subject.tryMatch body position captures fun stop captures =>
      goOn stop ((number, position, stop) :: captures)
  | .both first second, position, captures, goOn =>
    subject.tryMatch first position captures fun middle captures =>
      subject.tryMatch second middle captures goOn
  | .either first second, position, captures, goOn =>
    (subject.tryMatch first position captures goOn).orElse fun _ =>
      subject.tryMatch second position captures goOn
  | .times body least most, position, captures, goOn =>
    tryTimes (subject.tryMatch body) least most (least + subject.bytes.size + 1) 0 position captures
      goOn

/-- Where matches that begin in a position end, in descending order. -/
def endsAt (subject : Subject) (regular : Regular) (start : Nat) : List Nat :=
  if regular.hasAgain then
    ((List.range (subject.bytes.size + 1 - start)).map (start + ·)).reverse.filter fun stop =>
      (subject.tryMatch regular start [] fun last captures =>
        if last = stop then some captures else none).isSome
  else (subject.ends regular [start]).reverse

/-- How many steps sharing out a match takes at most. -/
def shareFuel (subject : Subject) (regular : Regular) : Nat :=
  (subject.bytes.size + 2) * regular.size

/-- The groups of a match from one position to another one. -/
def capturesOf (subject : Subject) (regular : Regular) (start stop : Nat) : Captures :=
  if regular.hasAgain then
    (subject.tryMatch regular start [] fun last captures =>
      if last = stop then some captures else none).getD []
  else subject.share (subject.shareFuel regular) regular start stop []

end Subject

/-- A match: where it begins and ends, and the places of its groups. -/
structure Match where
  /-- Where it begins. -/
  start : Nat
  /-- Where it ends. -/
  stop : Nat
  /-- The places of the groups. -/
  captures : Captures
  deriving DecidableEq, Repr

/-- The first match that begins in one of so many positions from a position on, and for whose ends
a condition holds. -/
def searchFrom (subject : Subject) (regular : Regular) (holds : Nat → Nat → Bool) :
    (count start : Nat) → Option (Nat × Nat)
  | 0, _ => none
  | count + 1, start =>
    match (subject.endsAt regular start).find? (holds start) with
    | some stop => some (start, stop)
    | none => searchFrom subject regular holds count (start + 1)

/-- The first match from a position on. -/
def search? (subject : Subject) (regular : Regular) (start : Nat) : Option Match := do
  let (start, stop) ← searchFrom subject regular (fun _ _ => true)
    (subject.bytes.size + 1 - start) start
  return ⟨start, stop, subject.capturesOf regular start stop⟩

/-- The part of the text between two positions. -/
def Subject.part (subject : Subject) (start stop : Nat) : Bytes :=
  (subject.bytes.extract start stop).toList

/-- The text of a group of a match; the group 0 is the whole match. -/
def Match.text (found : Match) (subject : Subject) (group : Nat) : Bytes :=
  if group = 0 then subject.part found.start found.stop
  else
    match found.captures.lookup group with
    | some (start, stop) => subject.part start stop
    | none => []

end CommandShell.Programs.Regular
