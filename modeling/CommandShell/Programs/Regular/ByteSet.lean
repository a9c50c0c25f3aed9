import CommandShell.Programs.Call

/-!
# Sets of Bytes

Classes of bytes, as programs know them that take each byte for a character, and sets of bytes,
packed into the bits of a number.
-/

namespace CommandShell.Programs

/-- The byte is a blank within a line. -/
def isBlankIn (b : UInt8) : Bool := b = 0x20 || b = 0x09

/-- The byte is a decimal digit. -/
def isDigitByte (b : UInt8) : Bool := 0x30 ≤ b && b ≤ 0x39

/-- The byte is a letter without marks. -/
def isLetterByte (b : UInt8) : Bool := (0x41 ≤ b && b ≤ 0x5A) || (0x61 ≤ b && b ≤ 0x7A)

/-- The upper case of a byte. -/
def upperByte (b : UInt8) : UInt8 := if 0x61 ≤ b && b ≤ 0x7A then b - 0x20 else b

/-- The lower case of a byte. -/
def lowerByte (b : UInt8) : UInt8 := if 0x41 ≤ b && b ≤ 0x5A then b + 0x20 else b

/-- The byte may stand in a word: a letter, a digit or an underscore. -/
def isWordByte (b : UInt8) : Bool := isLetterByte b || isDigitByte b || b = 0x5F

/-- The names of classes of bytes with their members. -/
def byteClasses : List (String × (UInt8 → Bool)) :=
  let isUpper (b : UInt8) : Bool := 0x41 ≤ b && b ≤ 0x5A
  let isLower (b : UInt8) : Bool := 0x61 ≤ b && b ≤ 0x7A
  let isGraph (b : UInt8) : Bool := 0x21 ≤ b && b ≤ 0x7E
  let isAlnum (b : UInt8) : Bool := isLetterByte b || isDigitByte b
  [ ("alnum", isAlnum), ("alpha", isLetterByte), ("blank", isBlankIn),
    ("cntrl", fun b => b < 0x20 || b = 0x7F), ("digit", isDigitByte), ("graph", isGraph),
    ("lower", isLower), ("print", fun b => isGraph b || b = 0x20),
    ("punct", fun b => isGraph b && !isAlnum b),
    ("space", fun b => b = 0x20 || (0x09 ≤ b && b ≤ 0x0D)), ("upper", isUpper),
    ("xdigit", fun b => isDigitByte b || (0x41 ≤ b && b ≤ 0x46) || (0x61 ≤ b && b ≤ 0x66)) ]

/-- All bytes in their order. -/
def allBytes : Bytes := (List.range 256).map UInt8.ofNat

/-- The members of a class of bytes. -/
def classMembers? (name : String) : Option Bytes :=
  (byteClasses.lookup name).map fun isMember => allBytes.filter isMember

/-- A set of bytes: the bit of a byte tells whether it is a member. -/
structure ByteSet where
  /-- The bits. -/
  bits : Nat
  deriving DecidableEq, Repr

namespace ByteSet

/-- The byte is a member. -/
def has (set : ByteSet) (b : UInt8) : Bool := set.bits.testBit b.toNat

/-- The set of the bytes for which a test holds. -/
def ofTest (test : UInt8 → Bool) : ByteSet :=
  ⟨allBytes.foldl (fun bits b => if test b then bits ||| (1 <<< b.toNat) else bits) 0⟩

/-- The set of a single byte. -/
def single (b : UInt8) : ByteSet := ⟨1 <<< b.toNat⟩

/-- The bytes that are not members. -/
def inverted (set : ByteSet) : ByteSet := ofTest (!set.has ·)

/-- The set with the other case of each letter that is a member. -/
def folded (set : ByteSet) : ByteSet :=
  ofTest fun b => set.has b || set.has (upperByte b) || set.has (lowerByte b)

end ByteSet

end CommandShell.Programs
