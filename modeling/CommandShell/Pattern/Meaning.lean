import CommandShell.Pattern.Expr
import CommandShell.Pattern.Nesting
import CommandShell.Pattern.Property

/-!
# The Meaning of Patterns

What a pattern that has been read matches. Flags hold from where they are set to the end of the
group around them. Where letters match in either case, a set is closed under differences in case
before anything is taken out of it. Without Unicode, classes are those of ASCII and nothing may be
asked for that could be a part of a character.
-/

namespace CommandShell.Pattern

open Unicode (CharClass)

/-- The flags that hold at some place of a pattern. -/
structure Modes where
  /-- Letters match in either case. -/
  ignoreCase : Bool
  /-- `^` and `$` match at the ends of lines. -/
  multiLine : Bool
  /-- The dot matches newlines. -/
  dotAll : Bool
  /-- Classes are those of Unicode. -/
  unicode : Bool
  /-- Lines may end in a carriage return. -/
  carriageReturn : Bool
  deriving DecidableEq, Repr

namespace Modes

/-- The flags that hold at the beginning. -/
def initial (ignoreCase : Bool) : Modes := ⟨ignoreCase, false, false, true, false⟩

/-- Switch a flag on or off. -/
def set (modes : Modes) (flag : Flag) (on : Bool) : Modes :=
  match flag with
  | .ignoreCase => { modes with ignoreCase := on }
  | .multiLine => { modes with multiLine := on }
  | .dotAll => { modes with dotAll := on }
  | .unicode => { modes with unicode := on }
  | .carriageReturn => { modes with carriageReturn := on }
  | .swapGreed | .extended => modes

/-- Switch some flags on or off. -/
def apply (modes : Modes) (change : FlagChange) : Modes :=
  change.foldl (fun modes (flag, on) => modes.set flag on) modes

end Modes

/-- The other form of an ASCII letter, or the character itself. -/
def otherCase (c : Char) : Char :=
  if c.isUpper then c.toLower else c.toUpper

/-- The set together with everything that differs from a member in case only, where case does not
matter. -/
def Modes.closed (modes : Modes) (set : CharClass) : CharClass :=
  if modes.ignoreCase then
    if modes.unicode then fun c => set c || (Unicode.Version16.caseVariants c).any set
    else fun c => set c || set (otherCase c)
  else set

/-- What is outside a set, if `negated`; without Unicode that would include parts of
characters. -/
def Modes.negateIf (modes : Modes) (span : Span) (negated : Bool) (set : CharClass) :
    Except Fault CharClass :=
  if negated then
    if modes.unicode then .ok fun c => !set c else .error (.inPart .invalidUtf8 span)
  else .ok set

/-- The characters of a named ASCII class. -/
def AsciiClass.characters (kind : AsciiClass) (c : Char) : Bool :=
  c.toNat < 128 && match kind with
    | .alnum => c.isAlphanum
    | .alpha => c.isAlpha
    | .ascii => true
    | .blank => c == ' ' || c == '\t'
    | .cntrl => c.toNat < 32 || c.toNat == 127
    | .digit => c.isDigit
    | .graph => '!' ≤ c && c ≤ '~'
    | .lower => c.isLower
    | .print => ' ' ≤ c && c ≤ '~'
    | .punct => '!' ≤ c && c ≤ '~' && !c.isAlphanum
    | .space => Text.isBlank c
    | .upper => c.isUpper
    | .word => c.isAlphanum || c == '_'
    | .xdigit => (hexDigit? c).isSome

/-- The characters of a class with a letter. -/
def Modes.shortClass (modes : Modes) (kind : ShortClass) (c : Char) : Bool :=
  (modes.unicode || c.toNat < 128) && match kind with
    | .digit => Unicode.Version16.isDigit c
    | .space => Text.isBlank c
    | .word => Unicode.Version16.isWordChar c

/-- The character that a literal stands for; without Unicode, the number of a byte must be that of
an ASCII character. -/
def Literal.resolve (modes : Modes) (one : Literal) : Except Fault Char :=
  if !modes.unicode && one.asByte && 128 ≤ one.char.toNat then
    .error (.inPart .invalidUtf8 one.span)
  else .ok one.char

/-- The character that a literal stands for in a set; without Unicode it must be ASCII. -/
def Literal.resolveInSet (modes : Modes) (one : Literal) : Except Fault Char := do
  let c ← one.resolve modes
  if !modes.unicode && 128 ≤ c.toNat then .error (.inPart .unicodeNotAllowed one.span)
  else return c

/-- The characters with a property. -/
def Modes.propertyClass (modes : Modes) (span : Span) (query : PropertyQuery) :
    Except Fault CharClass :=
  if modes.unicode then (query.characters).mapError (.inPart · span)
  else .error (.inPart .unicodeNotAllowed span)

/-- What an operation makes of two sets. -/
def SetOperation.apply (operation : SetOperation) (left right : CharClass) : CharClass :=
  match operation with
  | .intersection => fun c => left c && right c
  | .difference => fun c => left c && !right c
  | .symmetricDifference => fun c => left c != right c

mutual

/-- The characters of a set. -/
def CharSet.characters (modes : Modes) : CharSet → Except Fault CharClass
  | .literal one => do
    let char ← one.resolveInSet modes
    return fun c => c == char
  | .range _ first last => do
    let low ← first.resolveInSet modes
    let high ← last.resolveInSet modes
    return fun c => low ≤ c && c ≤ high
  | .ascii span kind negated => modes.negateIf span negated (modes.closed kind.characters)
  | .short span kind negated => modes.negateIf span negated (modes.shortClass kind)
  | .property span query negated => do
    let set ← modes.propertyClass span query
    modes.negateIf span negated (modes.closed set)
  | .bracketed span negated body => do
    let set ← body.characters modes
    modes.negateIf span negated (modes.closed set)
  | .union _ members => CharSet.charactersOfAny modes members
  | .combined _ operation left right => do
    let left ← left.characters modes
    let right ← right.characters modes
    return operation.apply (modes.closed left) (modes.closed right)

/-- The characters of any of some sets. -/
def CharSet.charactersOfAny (modes : Modes) : List CharSet → Except Fault CharClass
  | [] => .ok fun _ => false
  | first :: others => do
    let left ← first.characters modes
    let right ← CharSet.charactersOfAny modes others
    return fun c => left c || right c

end

/-- The characters that the dot stands for. -/
def Modes.dotClass (modes : Modes) (span : Span) : Except Fault CharClass :=
  if modes.unicode then
    .ok fun c => modes.dotAll || (c != '\n' && !(modes.carriageReturn && c == '\r'))
  else .error (.inPart .invalidUtf8 span)

/-- There is a character at this side of the place, and it is one of those that words are made
of. -/
def Modes.isWord (modes : Modes) (side : Option Char) : Bool :=
  side.any (modes.shortClass .word)

/-- A line begins at the place. -/
def Modes.lineStart (modes : Modes) : PlaceTest := fun before after =>
  before.isNone || (modes.multiLine &&
    (before == some '\n' || (modes.carriageReturn && before == some '\r' && after != some '\n')))

/-- A line ends at the place. -/
def Modes.lineEnd (modes : Modes) : PlaceTest := fun before after =>
  after.isNone || (modes.multiLine &&
    if modes.carriageReturn then
      after == some '\r' || (after == some '\n' && before != some '\r')
    else after == some '\n')

/-- The places that a condition holds at. -/
def Anchor.test (modes : Modes) : Anchor → PlaceTest
  | .caret => modes.lineStart
  | .dollar => modes.lineEnd
  | .textStart => fun before _ => before.isNone
  | .textEnd => fun _ after => after.isNone
  | .wordBoundary => fun before after => modes.isWord before != modes.isWord after
  | .notWordBoundary => fun before after => modes.isWord before == modes.isWord after
  | .wordStart => fun before after => !modes.isWord before && modes.isWord after
  | .wordEnd => fun before after => modes.isWord before && !modes.isWord after
  | .wordStartHalf => fun before _ => !modes.isWord before
  | .wordEndHalf => fun _ after => !modes.isWord after

/-- What a pattern means. -/
abbrev Meaning := Expr CharClass PlaceTest

mutual

/-- What a pattern matches, and the flags that hold after it. -/
def Node.meaning (modes : Modes) : Node → Except Fault (Meaning × Modes)
  | .empty _ => .ok (.empty, modes)
  | .flags _ change => .ok (.empty, modes.apply change)
  | .literal one => do
    let char ← one.resolve modes
    return (.oneOf (modes.closed (· == char)), modes)
  | .dot span => do return (.oneOf (← modes.dotClass span), modes)
  | .anchor _ kind => .ok (.look (kind.test modes), modes)
  | .oneOf set => do return (.oneOf (← set.characters modes), modes)
  | .repetition _ body least most => do
    let (body, modes) ← body.meaning modes
    return (.repeated body least most, modes)
  | .group _ change body => do
    let (body, _) ← body.meaning (modes.apply change)
    return (body, modes)
  | .alternation _ branches => do
    let (branches, modes) ← Node.meanings modes branches
    match branches with
    | [] => return (.empty, modes)
    | first :: others => return (.ofChoice first others, modes)
  | .concatenation _ parts => do
    let (parts, modes) ← Node.meanings modes parts
    return (.ofSequence parts, modes)

/-- What each of some patterns matches, and the flags that hold after the last one. -/
def Node.meanings (modes : Modes) : List Node → Except Fault (List Meaning × Modes)
  | [] => .ok ([], modes)
  | first :: others => do
    let (first, modes) ← first.meaning modes
    let (others, modes) ← Node.meanings modes others
    return (first :: others, modes)

end

end CommandShell.Pattern
