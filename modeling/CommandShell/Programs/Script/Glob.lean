import CommandShell.Files

/-!
# Patterns for Names

Patterns in which `*` stands for any characters, `?` for one, and brackets for one of several. They
are compared with whole texts, and with the names of files: there they do not match a dot at the
beginning of a name, nor a slash.
-/

namespace CommandShell.Programs.Script

/-- A character of a pattern; a quoted one stands for itself. -/
structure Glyph where
  /-- The character. -/
  char : Char
  /-- It is quoted. -/
  quoted : Bool
  deriving DecidableEq, Repr

/-- The characters that stand for themselves. -/
def Glyph.ofText (text : List Char) : List Glyph :=
  text.map (⟨·, true⟩)

/-- A set of characters in brackets. -/
inductive Member where
  /-- The characters from one to another. -/
  | range (first last : Char)
  /-- A class of characters by name. -/
  | named (name : String)
  deriving DecidableEq, Repr

/-- The characters of a named class. -/
def isInClass (name : String) (c : Char) : Bool :=
  match name with
  | "alpha" => c.isAlpha
  | "digit" => c.isDigit
  | "alnum" => c.isAlphanum
  | "upper" => c.isUpper
  | "lower" => c.isLower
  | "space" => c = ' ' || ('\t' ≤ c && c ≤ '\r')
  | "blank" => c = ' ' || c = '\t'
  | "punct" => '!' ≤ c && c ≤ '~' && !c.isAlphanum
  | "print" => ' ' ≤ c && c ≤ '~'
  | "graph" => '!' ≤ c && c ≤ '~'
  | "cntrl" => c < ' ' || c = '\x7f'
  | "xdigit" => c.isDigit || ('a' ≤ c && c ≤ 'f') || ('A' ≤ c && c ≤ 'F')
  | _ => false

/-- The character is in the set. -/
def Member.has (member : Member) (c : Char) : Bool :=
  match member with
  | .range first last => first ≤ c && c ≤ last
  | .named name => isInClass name c

/-- A pattern, character by character. -/
inductive Wild where
  /-- Any characters. -/
  | many
  /-- One character. -/
  | one
  /-- One of some characters, or none of them. -/
  | set (negated : Bool) (members : List Member)
  /-- The character itself. -/
  | just (c : Char)
  deriving DecidableEq, Repr

/-- The character fits one of the pattern. -/
def Wild.accepts (wild : Wild) (c : Char) : Bool :=
  match wild with
  | .many | .one => true
  | .set negated members => members.any (·.has c) != negated
  | .just d => c = d

/-- Read the members of a set up to the bracket that closes it, which cannot be the first member;
`fuel` bounds their number. -/
def readMembers : (fuel : Nat) → (isFirst : Bool) → List Glyph →
    Option (List Member × List Glyph)
  | 0, _, _ | _, _, [] => none
  | fuel + 1, isFirst, ⟨c, quoted⟩ :: rest =>
    let goOn (member : Member) (rest : List Glyph) : Option (List Member × List Glyph) :=
      (readMembers fuel false rest).map fun (others, rest) => (member :: others, rest)
    if c = ']' && !quoted && !isFirst then some ([], rest)
    else
      match rest with
      | ⟨':', _⟩ :: inner =>
        let name := inner.takeWhile (·.char != ':')
        match c, inner.drop name.length with
        | '[', ⟨':', _⟩ :: ⟨']', _⟩ :: rest =>
          goOn (.named (String.ofList (name.map (·.char)))) rest
        | _, _ => goOn (.range c c) rest
      | ⟨'-', false⟩ :: last :: others =>
        if last.char = ']' && !last.quoted then goOn (.range c c) rest
        else goOn (.range c last.char) others
      | _ => goOn (.range c c) rest

/-- Read a pattern; `fuel` bounds its length. A bracket that is not closed stands for itself. -/
def readWild : (fuel : Nat) → List Glyph → List Wild
  | 0, _ | _, [] => []
  | fuel + 1, ⟨c, quoted⟩ :: rest =>
    if quoted then .just c :: readWild fuel rest
    else
      match c with
      | '*' => .many :: readWild fuel rest
      | '?' => .one :: readWild fuel rest
      | '[' =>
        let (negated, inner) := match rest with
          | ⟨'!', false⟩ :: inner | ⟨'^', false⟩ :: inner => (true, inner)
          | _ => (false, rest)
        match readMembers (inner.length + 1) true inner with
        | some (members, rest) => .set negated members :: readWild fuel rest
        | none => .just c :: readWild fuel rest
      | '\\' =>
        match rest with
        | next :: rest => .just next.char :: readWild fuel rest
        | [] => [.just c]
      | _ => .just c :: readWild fuel rest

/-- The pattern that some characters are. -/
def wildOf (glyphs : List Glyph) : List Wild :=
  readWild glyphs.length glyphs

/-- The text fits the pattern as a whole. -/
def fits : List Wild → List Char → Bool
  | [], text => text.isEmpty
  | .many :: rest, [] => fits rest []
  | .many :: rest, c :: text => fits rest (c :: text) || fits (.many :: rest) text
  | wild :: rest, c :: text => wild.accepts c && fits rest text
  | _ :: _, [] => false
termination_by wilds text => wilds.length + text.length

/-- The pattern holds a sign that stands for other characters. -/
def isPattern (glyphs : List Glyph) : Bool :=
  glyphs.any fun glyph => !glyph.quoted && ['*', '?', '['].contains glyph.char

/-- The name of a file fits the pattern; a dot at its beginning must stand in the pattern. -/
def fitsName (wilds : List Wild) (name : String) : Bool :=
  fits wilds name.toList && (!name.startsWith "." || wilds.head? == some (.just '.'))

/-- The paths that fit a pattern, part by part, from a path already found on; the parts are those
between slashes. -/
def expandParts (files : Files) (found : String) : List (List Glyph) → List String
  | [] => [found]
  | part :: rest =>
    let separator := if rest.isEmpty then "" else "/"
    let text := String.ofList (part.map (·.char))
    if !isPattern part then
      let path := found ++ text
      if (files.find (if path.isEmpty then "/" else path)).toOption.isSome then
        expandParts files (path ++ separator) rest
      else []
    else
      match files.locate (if found.isEmpty then "." else found) with
      | .error _ => []
      | .ok place =>
        let names := ("." :: ".." :: files.names place).filter (fitsName (wildOf part))
        let sorted := names.mergeSort fun a b => a ≤ b
        sorted.flatMap fun name => expandParts files (found ++ name ++ separator) rest

/-- The paths of files that fit a pattern; without any, the pattern as it stands. -/
def pathsFor (files : Files) (glyphs : List Glyph) : List String :=
  let text := String.ofList (glyphs.map (·.char))
  if isPattern glyphs then
    let parts := glyphs.splitOnP (·.char == '/')
    match expandParts files "" parts with
    | [] => [text]
    | paths => paths
  else [text]

end CommandShell.Programs.Script
