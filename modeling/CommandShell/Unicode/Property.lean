import CommandShell.Text.Blank
import CommandShell.Unicode.Category
import CommandShell.Unicode.RangeTable

/-!
# Character Properties

Properties of characters that patterns and names go by, from the Unicode Character Database,
version 17.0: the letters of words, the alphabetic characters, upper and lower case. Each is a
union of general categories and of a table of further characters.
-/

namespace CommandShell.Unicode

/-- Alphabetic characters that are neither letters nor letter-like numbers. -/
def otherAlphabetic : RangeTable := .ofText
  ("345+1 1D+D 240+E 1+1 1+2 1+2 1+1 48+B 30+D 1+7 10+1 65+7 4+4 2+2 4+1 23+1 1E+10 66+B 65+2 " ++
    "3+9 1+3 1+4 6A+1 3C+C 3+7 6+14 36+2 2+F 1+2 5+3 A+2 1D+3 3A+7 2+2 2+2 A+1 A+2 1D+3 3A+5 " ++
    "4+2 2+2 4+1 1E+2 3+1 B+3 3A+8 1+3 1+2 15+2 16+3 4+3 3A+7 2+2 2+2 9+2 A+2 1E+1 3B+5 3+3 1+3 " ++
    "A+1 28+5 39+7 1+3 1+3 8+2 B+2 1D+3 3A+7 1+3 1+3 8+2 B+2 F+1 C+4 3A+7 1+3 1+3 A+1 A+2 1D+3 " ++
    "4B+6 1+1 1+8 12+2 3D+1 2+7 12+1 63+1 2+6 1+2 10+1 A3+13 9+B 1+24 6E+C 1+1 2+4 17+4 4+3 1+3 " ++
    "2+7 3+4 D+C 1+1 A+4 674+2 1E+2 1E+2 1E+2 42+13 BC+2 22+1 76+C 4+9 DE+5 39+A 2+14 4A+2 B+3 " ++
    "31+5 30+F 3C+3 1E+9 2+2 39+B 32+13 19C+22 6C1+34 8F6+20 7874+8 22+2 162+1 8+1 17+5 58+2 " ++
    "32+10 1+1 39+1 26+5 1C+C 2D+4 30+C 25+1 43+E C+1 8+2 2D+3 32+1 1+3 2+2 5+1 2C+5 5+1 ED+8 " ++
    "4F33+1 857+5 686+3 1+2 5+4 314+4 41+1 141+2 4D+3 103+3 35+E 2D+2 B+3 2D+9 9+1 3D+3 24+C " ++
    "12+2 39+3 30+D E+2 5C+9 2+1 6+1 2+1 9D+A 17+4 3A+7 2+2 2+2 A+1 A+2 54+9 1+1 2+1 1+4 1+2 " ++
    "67+D 1+3 6A+12 ED+7 2+7 1D+2 52+F 1+1 6A+B 67+E 101+D F7+6 1+2 2+2 3+1 1+1 8E+7 2+6 4+1 " ++
    "1C+A 2A+5 1+4 12+B 2E+E C8+8 C7+8 1+7 53+16 1+E 7A+6 3+1 1+2 1+3 1+1 3+1 42+5 1+2 1+4 " ++
    "15C+4 9+2 1+1 30+7 3+3 41DD+11 E20+1 1+37 7+4 5D+2 4CAC+1 2361+7 1+11 2+7 1+2 1+5 64+1 " ++
    "653+1 2+1 7+2 5+1 251+1 7E8+1A 6+1A 6+1A")

/-- Lowercase characters that are not lowercase letters. -/
def otherLowercase : RangeTable := .ofText
  ("AA+1 F+1 1F5+9 7+2 1E+5 60+1 34+1 D81+1 C2F+3F D+1 22+25 2B1+1 D+1 10+D D3+10 350+1A 792+2 " ++
    "7A1E+2 D2+1 80+4 3+2 362+4 9+1 5C16+1 2+3 1+2A 1+9 D875+3E")

/-- Uppercase characters that are not uppercase letters. -/
def otherUppercase : RangeTable := .ofText
  "2160+10 346+1A 1CC60+1A 6+1A 6+1A"

/-- Characters that are shown together with the one before them and are neither nonspacing nor
enclosing marks. -/
def otherExtending : RangeTable := .ofText
  ("9BE+1 18+1 166+1 18+1 66+1 18+1 E8+1 1+1 4+2 1+2 9+2 67+1 18+1 77+1 F+1 935+1 1E+1 400+1 " ++
    "5+1 1+1 5+2 65+1 47+2 418+1 1021+2 7923+1 6C+1 55DD+2 1220+1 74+1 108+1 E+1 9+1 60+1 9+1 " ++
    "2+1 1+3 5+1 E0+1 C+1 F1+1 106+1 279+1 C+1 603+1 50AE+2 6173+2 6+6 C2EAD+60")

/-- The character has the property `Alphabetic`. -/
def isAlphabetic (c : Char) : Bool :=
  if c.toNat < 128 then c.isAlpha
  else
    let category := Category.of c
    category.isLetter || category = .letterNumber || otherAlphabetic.contains c.toNat

/-- The character is alphabetic or a number. -/
def isAlphanumeric (c : Char) : Bool :=
  if c.toNat < 128 then c.isAlphanum else isAlphabetic c || (Category.of c).isNumber

/-- The character has the property `Lowercase`. -/
def isLowercase (c : Char) : Bool :=
  Category.of c = .lowercaseLetter || otherLowercase.contains c.toNat

/-- The character has the property `Uppercase`. -/
def isUppercase (c : Char) : Bool :=
  Category.of c = .uppercaseLetter || otherUppercase.contains c.toNat

/-- The character is a decimal digit. -/
def isDigit (c : Char) : Bool :=
  if c.toNat < 128 then c.isDigit else Category.of c = .decimalNumber

/-- The character is one that words are made of: alphabetic, a combining mark, a decimal digit,
connecting punctuation, or one of the two joiners. -/
def isWordChar (c : Char) : Bool :=
  if c.toNat < 128 then c.isAlphanum || c == '_'
  else
    let category := Category.of c
    isAlphabetic c || category.isMark || category = .decimalNumber ||
      category = .connectorPunctuation || c.toNat == 0x200C || c.toNat == 0x200D

/-- The character is visible or a plain space: neither a control, a separator, nor anything that
is not assigned. -/
def isPrintable (c : Char) : Bool :=
  let category := Category.of c
  c == ' ' || !(category.isOther || category.isSeparator)

/-- The character is shown together with the one before it. -/
def isExtending (c : Char) : Bool :=
  let category := Category.of c
  category = .nonspacingMark || category = .enclosingMark || otherExtending.contains c.toNat

end CommandShell.Unicode
