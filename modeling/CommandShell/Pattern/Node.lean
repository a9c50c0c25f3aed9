import CommandShell.Pattern.Fault

/-!
# Patterns as They Are Written

A pattern as it is written, each part with its place in the text. Nothing is resolved here: flags
stand where they are set, named properties are names.
-/

namespace CommandShell.Pattern

/-- A switch that changes how a pattern is read or what it matches. -/
inductive Flag where
  /-- `i`: letters match in either case. -/
  | ignoreCase
  /-- `m`: `^` and `$` match at the ends of lines. -/
  | multiLine
  /-- `s`: the dot matches newlines. -/
  | dotAll
  /-- `U`: repetitions prefer few rounds, which never changes whether something matches. -/
  | swapGreed
  /-- `u`: classes are those of Unicode. -/
  | unicode
  /-- `R`: lines may end in a carriage return. -/
  | carriageReturn
  /-- `x`: blanks and comments in the pattern are ignored. -/
  | extended
  deriving DecidableEq, Repr

namespace Flag

/-- The flag that a letter stands for. -/
def ofChar? : Char → Option Flag
  | 'i' => some .ignoreCase
  | 'm' => some .multiLine
  | 's' => some .dotAll
  | 'U' => some .swapGreed
  | 'u' => some .unicode
  | 'R' => some .carriageReturn
  | 'x' => some .extended
  | _ => none

end Flag

/-- Flags that are switched on or off. -/
abbrev FlagChange := List (Flag × Bool)

/-- A single character in a pattern. -/
structure Literal where
  /-- The part of the pattern that stands for the character. -/
  span : Span
  /-- The character. -/
  char : Char
  /-- It is written as the number of a byte, with two hexadecimal digits. -/
  asByte : Bool
  deriving DecidableEq, Repr

/-- A class with a letter of its own. -/
inductive ShortClass where
  /-- `\d`: digits. -/
  | digit
  /-- `\s`: blank characters. -/
  | space
  /-- `\w`: characters of words. -/
  | word
  deriving DecidableEq, Repr

/-- A class of ASCII characters with a name. -/
inductive AsciiClass where
  /-- Letters and digits. -/
  | alnum
  /-- Letters. -/
  | alpha
  /-- Everything. -/
  | ascii
  /-- The space and the tab. -/
  | blank
  /-- Control characters. -/
  | cntrl
  /-- Digits. -/
  | digit
  /-- Visible characters. -/
  | graph
  /-- Lowercase letters. -/
  | lower
  /-- Visible characters and the space. -/
  | print
  /-- Punctuation. -/
  | punct
  /-- Blank characters. -/
  | space
  /-- Uppercase letters. -/
  | upper
  /-- Letters, digits and the underscore. -/
  | word
  /-- Hexadecimal digits. -/
  | xdigit
  deriving DecidableEq, Repr

/-- The class of a given name. -/
def AsciiClass.ofName? : String → Option AsciiClass
  | "alnum" => some .alnum
  | "alpha" => some .alpha
  | "ascii" => some .ascii
  | "blank" => some .blank
  | "cntrl" => some .cntrl
  | "digit" => some .digit
  | "graph" => some .graph
  | "lower" => some .lower
  | "print" => some .print
  | "punct" => some .punct
  | "space" => some .space
  | "upper" => some .upper
  | "word" => some .word
  | "xdigit" => some .xdigit
  | _ => none

/-- How a property of characters is asked for. -/
inductive PropertyQuery where
  /-- By one letter. -/
  | letter (c : Char)
  /-- By a name. -/
  | name (name : String)
  /-- By the name of a property and one of its values. -/
  | value (name value : String)
  deriving DecidableEq, Repr

/-- How two sets of characters are combined within a bracket. -/
inductive SetOperation where
  /-- `&&`: characters in both. -/
  | intersection
  /-- `--`: characters in the first but not in the second. -/
  | difference
  /-- `~~`: characters in one of them only. -/
  | symmetricDifference
  deriving DecidableEq, Repr

/-- A set of characters as it is written. -/
inductive CharSet where
  /-- One character. -/
  | literal (literal : Literal)
  /-- All characters from one to another. -/
  | range (span : Span) (first last : Literal)
  /-- A named class of ASCII characters, or what is outside it. -/
  | ascii (span : Span) (kind : AsciiClass) (negated : Bool)
  /-- A class with a letter, or what is outside it. -/
  | short (span : Span) (kind : ShortClass) (negated : Bool)
  /-- The characters with a property, or those without it. -/
  | property (span : Span) (query : PropertyQuery) (negated : Bool)
  /-- A bracket, or what is outside it. -/
  | bracketed (span : Span) (negated : Bool) (body : CharSet)
  /-- Everything that is in one of several sets. -/
  | union (span : Span) (members : List CharSet)
  /-- A combination of two sets. -/
  | combined (span : Span) (operation : SetOperation) (left right : CharSet)
  deriving Repr

namespace CharSet

/-- The part of the pattern that describes the set. -/
def span : CharSet → Span
  | .literal one => one.span
  | .range span .. => span
  | .ascii span .. => span
  | .short span .. => span
  | .property span .. => span
  | .bracketed span .. => span
  | .union span _ => span
  | .combined span .. => span

/-- The union of some sets, given last first; `place` is where it would stand if it is empty. A
single set is its own union. -/
def ofMembers (place : Nat) (members : List CharSet) : CharSet :=
  match members with
  | [] => .union ⟨place, place⟩ []
  | [member] => member
  | last :: _ =>
    let members := members.reverse
    let start := ((members.head?).map (·.span.start)).getD place
    .union ⟨start, last.span.stop⟩ members

end CharSet

/-- A condition on the place between two characters. -/
inductive Anchor where
  /-- `^`. -/
  | caret
  /-- `$`. -/
  | dollar
  /-- `\A`: the start of the text. -/
  | textStart
  /-- `\z`: the end of the text. -/
  | textEnd
  /-- `\b`: between a character of words and another. -/
  | wordBoundary
  /-- `\B`: not at a word boundary. -/
  | notWordBoundary
  /-- Before the first character of a word. -/
  | wordStart
  /-- After the last character of a word. -/
  | wordEnd
  /-- Not after a character of words. -/
  | wordStartHalf
  /-- Not before a character of words. -/
  | wordEndHalf
  deriving DecidableEq, Repr

/-- A pattern as it is written. -/
inductive Node where
  /-- Nothing. -/
  | empty (span : Span)
  /-- Flags that hold from here on. -/
  | flags (span : Span) (change : FlagChange)
  /-- One character. -/
  | literal (literal : Literal)
  /-- The dot. -/
  | dot (span : Span)
  /-- A condition on the place. -/
  | anchor (span : Span) (kind : Anchor)
  /-- A character of a set. -/
  | oneOf (set : CharSet)
  /-- A pattern repeated at least `least` times and, if there is a bound, at most `most` times. -/
  | repetition (span : Span) (body : Node) (least : Nat) (most : Option Nat)
  /-- A pattern in parentheses, with flags of its own. -/
  | group (span : Span) (change : FlagChange) (body : Node)
  /-- One of several patterns. -/
  | alternation (span : Span) (branches : List Node)
  /-- Patterns one after the other. -/
  | concatenation (span : Span) (parts : List Node)
  deriving Repr

namespace Node

/-- Some patterns one after the other, given last first; a single pattern stands for itself. -/
def ofParts (span : Span) (parts : List Node) : Node :=
  match parts with
  | [] => .empty span
  | [part] => part
  | _ => .concatenation span parts.reverse

/-- The part of the text that a pattern takes. -/
def span : Node → Span
  | .literal one => one.span
  | .oneOf set => set.span
  | .empty span | .flags span _ | .dot span | .anchor span _ | .repetition span .. |
    .group span .. | .alternation span _ | .concatenation span _ => span

/-- There is something to repeat: the pattern is neither empty nor a setting of flags. -/
def isRepeatable : Node → Bool
  | .empty _ | .flags .. => false
  | _ => true

end Node

end CommandShell.Pattern
