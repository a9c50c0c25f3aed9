import CommandShell.Text.Blank
import CommandShell.Unicode.NamedClass
import CommandShell.Unicode.Version16

/-!
# Boolean Properties

The properties of characters that hold or do not hold, from the Unicode Character Database,
version 16.0. Many of them are put together from general categories, from each other and from
tables of further characters; the others are tables.
-/

namespace CommandShell.Unicode.Version16

/-- Characters that steer the direction of writing. -/
def bidiControl : RangeTable := .ofText "61C+1 19F1+2 1A+5 37+4"

/-- Characters whose mirror image is shown in text from right to left. -/
def bidiMirrored : RangeTable := .ofText
  ("28+2 12+1 1+1 1C+1 1+1 1D+1 1+1 2D+1 F+1 E7E+4 75D+2 99C+2 A+2 36+2 E+2 B1+1 C0+4 3+6 3+1 " ++
    "3+2 3+4 1+4 1+1 1+1 4+9 5+1 1+12 5+4 9+2 1+1 1+8 1+20 2+4 5+1 9+2 2+13 5+2 9+5 2+2 4+18 " ++
    "2+10 8+4 14+2 7+2 43D+E 4A+1 2+4 1+2 1+3 5+4 5+3 3+E 193+16 2+6 1+E 8+1 7+6 3+1 4+5 1+2 " ++
    "2+5 4+1 1+3 2+2 A+6 2+2 C+13 1+4 2+1 1+1 2+1 1+4 5+2 6+3 18+2 B+2 4+4 1+2 2+2 4+2B 2+8 " ++
    "1+28 5+1 1+1 3+5 5+3 4+1 3+5 1+1 100+1 203+4 3+2 1+2 E+2 2+A 2B+8 1AB+A 2+8 CE3D+6 5+2 " ++
    "A2+2 12+1 1+1 1C+1 1+1 1D+1 1+1 1+2 1+2 D777+1 39+1 39+1 39+1 39+1")

/-- Punctuation within words, which does not count where letters change their case. -/
def caseTransparent : RangeTable := .ofText
  "27+1 6+1 B+1 7C+1 2CF+1 1D7+1 94+1 1A23+2 A+1 2+1 DDEB+1 3E+1 2+1 B1+1 6+1 B+1"

/-- Uppercase characters that have no lowercase form. -/
def fixedUppercase : RangeTable := .ofText
  ("3D2+3 1D2D+1 4+1 3+3 2+3 2+1 3+5 6+1 3+1 3+2 2+2 1+1 A+2 5+1 1B2BA+1A 1A+1A 1A+1A 1A+1 " ++
    "1+2 2+1 2+2 2+4 1+8 1A+1A 1A+2 1+4 2+8 1+7 1B+2 1+4 1+5 1+1 3+7 1B+1A 1A+1A 1A+1A 1A+1A " ++
    "1A+1A 1A+1A 1E+19 21+19 21+19 21+19 21+19 21+1 1965+1A 6+1A 6+1A")

/-- Lowercase characters that have no uppercase form. -/
def fixedLowercase : RangeTable := .ofText
  ("AA+1 F+1 7D+1 54+1 1C+2 E+1 3+1 62+1 12+6 1B+1 2+1 1+1 2+3 2+1 4+1 5+2 1+1 2+2 1+7 1+2 " ++
    "1+1 2+3 6+5 1+1 1+8 2+1A 7+2 1E+5 95+1 81+1 163+1 27+1 B73+1 C03+79 1+3 1+10 1+31 DC+2 " ++
    "1+1 1D1+1 D+1 10+D 6D+1 3+2 3+1 1B+1 4+1 4+1 2+2 8+4 B27+1 2+1 2+7 66+1 79B7+2 92+2 3E+9 " ++
    "15+1 6+1 19+1 23+1 1+1 1C+3 3+3 335+23 1+7 1+E 5C16+1 2+3 1+2A 1+9 CC5F+1A 1A+7 1+12 " ++
    "1A+1A 1A+4 1+1 1+7 1+B 1A+1A 1A+1A 1A+1A 1A+1A 1A+1A 1A+1A 1A+1A 1A+1A 1A+1C 1C+19 1+6 " ++
    "1A+19 1+6 1A+19 1+6 1A+19 1+6 1A+19 1+6 1+1 734+A 1+14 6+6 105+3E")

/-- Georgian letters: their uppercase forms do not begin words. -/
def georgianLetters : RangeTable := .ofText "10D0+2B 2+3"

/-- Digraphs in uppercase: only their first part stays so at the beginning of words. -/
def uppercaseDigraphs : RangeTable := .ofText "1C4+1 2+1 2+1 26+1"

/-- Cherokee capitals: other letters are folded to them. -/
def cherokeeLetters : RangeTable := .ofText "13A0+56"

/-- Characters that are folded although they have no lowercase form. -/
def foldedOnly : RangeTable := .ofText
  ("B5+1 29+1 69+1 35+1 1C5+1 7C+1 D+2 3+2 19+2 3+1 191+1 E70+6 882+9 211+2 E4+8 8+8 8+8 A+3 " ++
    "2+1 A+3 2+1 2A+3 2+1 8B78+50 4F40+7 C+5")

/-- Dashes. -/
def dashes : RangeTable := .ofText
  ("2D+1 55C+1 33+1 E41+1 405+1 809+6 3D+1 27+1 F+1 186+1 C04+1 2+1 1F+2 4+1 1C+1 1BE+1 13+1 " ++
    "6F+1 CD90+2 25+1 A+1 A9+1 E60+1 13E+1")

/-- Characters that are not shown where they are not supported, besides format controls and
variation selectors. -/
def otherIgnorable : RangeTable := .ofText
  "34F+1 E0F+2 653+2 8AF+1 10FE+1 CE3B+1 4F+9 D0007+1 1+1E 60+80 F0+E10"

/-- Format controls that are shown nonetheless. -/
def shownFormats : RangeTable := .ofText "600+6 D7+1 31+1 180+2 50+1 F716+3 10C1+1 F+1 2362+10"

/-- Characters whose use is discouraged. -/
def deprecated : RangeTable := .ofText "149+1 529+1 903+1 1+1 829+2 8C5+6 2B9+2 DDCD6+1"

/-- Characters that modify those next to them. -/
def diacritics : RangeTable := .ofText
  ("5E+1 1+1 47+1 6+1 4+1 2+2 1F7+9F 1+8 5+6 11+2 4+1 9+2 FD+5 D1+1 37+2D 1+1 1+2 1+2 1+1 " ++
    "83+8 4+2 86+2 4+2 3+3 43+1B 5B+B 3A+B 22+2 7E+8 29+A 10+1C 3D+1 10+1 3+4 1C+1 4A+1 10+1 " ++
    "6E+1 10+1 6E+1 10+1 2F+3 3C+1 10+1 7+1 77+1 6E+1 10+1 6E+1 10+1 6D+2 10+1 7C+1 6F+1 C+6 " ++
    "1+1 6B+1 D+5 4B+2 1B+1 1+1 1+1 4+2 42+3 1+2 3E+1 70+1 1+2 28+2 4+5 19+7 1+1 A+2 2C1+3 " ++
    "3B4+2 1E+1 94+B 9+1 15B+3 124+1 14+8 2+1 30+F 2+B 68+1 F+1 26+9 36+2 3A+1 B+2 42+2 40+6 " ++
    "52+19 4+1 6+1 2+3 32+3F 30+24 5+C 25+B 1BD+1 1+3 B+3 D+3 D+3 D+2 CF0+3 13D+1 1FA+6 69+4 " ++
    "5F+1 7572+1 C+2 1+1 1C+2 52+2 E+22 66+3 6D+2 C+1 25+1 97+1 1B+12 39+4 24+1 5F+1 C+1 24+1 " ++
    "95+3 41+4 33+1 64+5 9+3 80+2 4F30+1 301+10 10E+1 1+1 2F+1 2D+2 43+1 2FC+1 49F+6 1+2A 1+9 " ++
    "27D+3 4+1 A5+2 23B+6 26+1 1A+5 18F+3 46+B 31+4 C0+1 29+1 48+2 78+2 3E+1 4C+1 9+3 68+2 " ++
    "B2+2 50+2 10+1 18+7 3+5 59+3 1+2 D+2 5F+1 3+1 7B+2 FB+2 7E+1 76+2 73+1 10D+2 102+2 4+1 " ++
    "9C+1 53+1 12+1 51+1 1A5+1 102+1 1+2 51+1 1A9+2 17+1 14EC+F 2CD9+1 9C0+5 3B+7 234+2 222+11 " ++
    "50+2 3FFE+4 1+7 1+2 1F01+2E 2+17 220+3 3+6 8+8 2+7 1E+4 E82+3E C2+7 177+1 3D+4 2FE+2 " ++
    "2E0+7 6D+3 1+3")

/-- Emoji. -/
def emoji : RangeTable := .ofText
  ("23+1 6+1 5+A 6F+1 4+1 1F8D+1 C+1 D8+1 16+1 5A+6 F+2 16F+2 C+1 A6+1 19+B 4+3 C7+1 E7+2 A+1 " ++
    "9+1 3A+4 1+5 9+1 2+1 2+2 2+1 4+1 2+1 1+2 2+1 3+1 3+2 8+3 5+1 1+1 5+C B+2 2+1 1+2 1+1 12+1 " ++
    "2+2 12+6 1+1 1+2 3+2 5+1 2+2 4+2 B+2 5+2 2+1 5+2 1+1 1+2 14+2 5+6 1+4 2+1 4+1 2+1 2+6 1+1 " ++
    "2+1 1+1 1+1 6+1 3+1 6+1 A+2 F+1 2+1 4+1 1+1 4+3 1+1 B+2 30+3 9+1 E+1 E+1 174+2 1CF+3 13+2 " ++
    "33+1 4+1 4DA+1 C+1 259+1 1+1 1BD6A+1 CA+1 A0+2 C+2 E+1 2+A 4B+1A 1+2 17+1 14+1 2+9 15+2 " ++
    "AE+22 2+70 2+2 1+3 2+53 2+3 1+107 1+3F B+6 1+18 7+2 2+8 C+1 2+4 2+1 4+2 D+2 2+1 8+2 9+1 " ++
    "5+3 C+3 8+3 2+1 1+1 4+1 6+1 3+1 6+56 30+46 5+8 2+3 4+A 3+1 1+2 3+1 2+A E3+C 4+1 11B+2F " ++
    "1+A 1+B9 70+D 3+A 5+38 7+F 2+B 6+9")

/-- Characters that emoji are put together from. -/
def emojiComponents : RangeTable := .ofText
  "23+1 6+1 5+A 1FD3+1 D5+1 DD2B+1 F3D6+1A 1FB+5 5B0+4 C066C+60"

/-- Modifiers of emoji: skin tones. -/
def emojiModifiers : RangeTable := .ofText "1F3FB+5"

/-- Emoji that can be modified. -/
def emojiModifierBases : RangeTable := .ofText
  ("261D+1 DB+1 10+4 1CC77+1 3C+3 2+1 2+3 75+2 2+B 15+13 3+1 4+3 1+3 7+1 1+1 18+1 C9+2 4+1 " ++
    "15+1 4+2 AE+3 3+5 53+1 10+3 9+1 B+1 23F+1 2+1 8+8 6+1 9+A 2+3 38+1 3D+2 1+2 1+1 11+3 1+D " ++
    "E5+3 2A+9")

/-- Characters that are shown as emoji. -/
def emojiPresentations : RangeTable := .ofText
  ("231A+2 CD+4 3+1 2+1 209+2 15+2 32+C 2B+1 13+1 D+1 8+2 11+2 5+2 8+1 5+1 15+1 7+2 1+1 4+1 " ++
    "2+1 7+1 4+2 1C+1 23+1 1+1 4+3 1+1 3D+3 18+1 E+1 35B+2 33+1 4+1 1C4AE+1 CA+1 BE+1 2+A " ++
    "4B+1A 1+1 18+1 14+1 2+5 1+3 15+2 AE+21 C+9 1+46 1+16 C+2B 4+5 C+11 3+1 3+47 1+1 1+BB 2+3F " ++
    "D+4 1+18 12+1 1A+2 D+1 56+55 30+46 6+1 3+3 2+3 4+4 B+2 7+9 E3+C 4+1 11B+2F 1+A 1+B9 70+D " ++
    "3+A 5+38 7+F 2+B 6+9")

/-- Pictographs, and code points kept free for them. -/
def pictographs : RangeTable := .ofText
  ("A9+1 4+1 1F8D+1 C+1 D8+1 16+1 5A+6 F+2 16F+2 C+1 5F+1 46+1 19+B 4+3 C7+1 E7+2 A+1 9+1 " ++
    "3A+4 1+6 1+C 1+72 A+76 2+B 1+1 1+1 6+1 3+1 6+1 A+2 F+1 2+1 4+1 1+1 4+3 1+1 B+5 2D+3 9+1 " ++
    "E+1 E+1 174+2 1CF+3 13+2 33+1 4+1 4DA+1 C+1 259+1 1+1 1BD66+100 D+3 1F+1 3C+6 C+2 E+1 2+A " ++
    "12+39 1B+F A+1 14+1 2+9 1+4 9+1B2 5+13E 8+10A 30+80 74+C 55+2B C+4 38+8 A+6 28+8 1E+52 " ++
    "C+2F 1+A 1+1B9 100+3FE")

/-- Characters that repeat or lengthen what is before them. -/
def extenders : RangeTable := .ofText
  ("B7+1 218+2 36E+1 1B9+1 276+1 89+1 59+1 2F0+1 7F+1 943+1 38+1 263+1 18E+1 44+1 1389+1 2B+5 " ++
    "67+2 5D+3 6F16+1 5F6+1 3C2+1 16+1 89+1 6C+1 15+2 547B+1 810+2 5CB+1 1B+1 4+1 4C7+1 125+1 " ++
    "74+2 1F2+3 4CF+1 50A9+2 49C+2 1+1 7158+2 4B1+1 354+3")

/-- Characters that link consonants. -/
def graphemeLinks : RangeTable := .ofText
  ("94D+1 7F+1 7F+1 7F+1 7F+1 7F+1 7F+1 7F+1 6D+2 10+1 7C+1 6F+1 7F+1 C9+1 B4+2 6D9+2 1E+1 " ++
    "9D+1 28D+1 E3+1 65+2 46+2 118B+1 7A86+1 25+1 97+1 8E+1 6C+1 135+1 F6+1 5E51+1 606+1 29+1 " ++
    "E+1 39+1 79+2 8B+1 74+1 B4+1 62+1 80+3 71+1 7F+1 FC+1 7F+1 76+1 74+1 10D+1 103+2 A1+1 " ++
    "53+1 12+1 51+1 1A5+1 104+2 51+1 1A9+2 41EC+1")

/-- Hexadecimal digits. -/
def hexDigits : RangeTable := .ofText "30+A 7+6 1A+6 FEA9+A 7+6 1A+6"

/-- Hyphens. -/
def hyphens : RangeTable := .ofText "2D+1 7F+1 4DC+1 127B+1 809+2 E05+1 2E3+1 CD67+1 A9+1 57+1"

/-- Operators that describe an ideograph by two parts. -/
def binaryOperators : RangeTable := .ofText "2FF0+2 2+A 1F1+1"

/-- Operators that describe an ideograph by three parts. -/
def ternaryOperators : RangeTable := .ofText "2FF2+2"

/-- Operators that describe an ideograph by one part. -/
def unaryOperators : RangeTable := .ofText "2FFE+2"

/-- Mathematical symbols that may begin an identifier where that is wanted. -/
def mathStarts : RangeTable := .ofText
  "2202+1 4+1 16+1 1B4A2+1 19+1 1F+1 19+1 1F+1 19+1 1F+1 19+1 1F+1 19+1"

/-- Superscripts and subscripts that may stand in an identifier where that is wanted. -/
def mathContinues : RangeTable := .ofText "B2+2 5+1 1FB6+1 3+B 1+F"

/-- Ideographs. -/
def ideographs : RangeTable := .ofText
  ("3006+2 19+9 E+3 3C5+19C0 40+5200 5900+16E 2+6A 750A+1 1B+17F8 8+4D6 29+A 2467+18C " ++
    "4D04+A6E0 20+103A 6+DE 2+1682 E+1D31 F+26E 9A2+21E 5E2+134B 5+1060")

/-- Vowels that are written before the consonant that they follow. -/
def prevowels : RangeTable := .ofText "E40+5 7B+5 AF0+3 2+1 90FA+2 2+1 1+2"

/-- Mathematical characters that are not mathematical symbols. -/
def otherMath : RangeTable := .ofText
  ("5E+1 371+3 2+1 1A+2 2+2 1C20+1 1B+3 B+1 20+4 18+2 E+2 41+D 4+1 3+2 4+5 12+1 4+1 2+A 1+1 " ++
    "3+5 6+1 3+2 2+2 1+3 1+6 3+4 5+5 4B+5 2+4 1+2 1+2 1+1 1+5 2+2 4+2 4+12 2+2 1+1 1+7 1+1 6+2 " ++
    "122+4 A8+2 1+1 18+1 11+1 1BD+2 C+9 5+5 5+2 2+2 3+5 E+1 1+1 2+6 18+2 39+1 1+1 1D+4 9+2 " ++
    "156+2 1F+A 193+16 3F+4 20+2 D463+1 1+1 4+1 D3+1 1+1 D4C1+55 1+47 1+2 2+1 2+2 2+4 1+C 1+1 " ++
    "1+7 1+41 1+4 2+8 1+7 1+1C 1+4 1+5 1+1 3+7 1+154 2+19 1+19 1+1F 1+19 1+1F 1+19 1+1F 1+19 " ++
    "1+1F 1+19 1+8 2+32 1600+4 1+1B 1+2 1+1 2+1 1+A 1+4 1+1 1+1 6+1 4+1 1+1 1+1 1+3 1+2 1+1 " ++
    "2+1 1+1 1+1 1+1 1+1 1+2 1+1 2+4 1+7 1+4 1+4 1+1 1+A 1+11 5+3 1+5 1+11")

/-- Combining marks that modify others. -/
def combiningModifiers : RangeTable := .ofText "654+2 2+1 83+1 6+1 3+2 1E1+2 1+3 3+1 1F+1"

/-- Further characters that identifiers begin with. -/
def otherIdentifierStart : RangeTable := .ofText "1885+2 891+1 15+1 F6C+2"

/-- Further characters that identifiers go on with. -/
def otherIdentifierContinue : RangeTable := .ofText "B7+1 2CF+1 FE1+9 668+1 631+2 10ED+1 CE69+1"

/-- Characters that do not begin identifiers which are to be normalized. -/
def unstableStarts : RangeTable := .ofText
  "37A+1 AB8+1 7F+1 21E7+2 CBC1+6 196+2 74+1 1+1 1+1 1+1 1+1 1+1 1+1 1+1 11F+2"

/-- Characters that do not stand in identifiers which are to be normalized. -/
def unstableContinues : RangeTable := .ofText
  "37A+1 2D20+2 CBC1+6 196+2 74+1 1+1 1+1 1+1 1+1 1+1 1+1 1+1"

/-- Characters that are reserved for the syntax of patterns. -/
def patternSyntax : RangeTable := .ofText
  ("21+F A+7 1A+4 1+1 1A+4 22+7 1+1 1+2 1+1 1+2 4+1 4+1 3+1 17+1 1F+1 1F18+18 8+F 2+13 1+A " ++
    "131+2D0 A0+276 1E+46C 200+80 181+3 4+19 F+1 CD0D+2 105+2")

/-- White space in patterns. -/
def patternBlanks : RangeTable := .ofText "9+5 12+1 64+1 1F88+2 18+2"

/-- Marks that go around the digits after them. -/
def prependedMarks : RangeTable := .ofText "600+6 D7+1 31+1 180+2 50+1 107DA+1 F+1"

/-- Quotation marks. -/
def quotationMarks : RangeTable := .ofText
  "22+1 4+1 83+1 F+1 1F5C+8 19+2 E07+1 1C9+4 D+3 CE21+4 BD+1 4+1 5A+2"

/-- Radicals of ideographs. -/
def radicals : RangeTable := .ofText "2E80+1A 1+59 C+D6"

/-- Letters that pairs of which are shown as flags. -/
def regionalIndicators : RangeTable := .ofText "1F1E6+1A"

/-- Punctuation marks at the end of sentences. -/
def sentenceTerminals : RangeTable := .ofText
  ("21+1 C+1 10+1 549+1 93+3 B4+1 2B+3 F6+1 3D+1 1+1 3+2 125+2 6E4+2 316+1 4+2 305+1 C6+2 " ++
    "9D+2 2D+1 5+1 13A+2 162+4 A2+2 A+2 2+2 1D+3 BB+2 41+2 3A4+1 17+2 9+3 CAF+3 132+1 D+1 16+2 " ++
    "1AD+1 74FC+1 10E+2 E3+1 3+1 17E+2 56+2 5F+1 98+2 93+3 90+2 F9+1 5226+1 2+2 3B+1 3+2 A9+1 " ++
    "C+1 10+1 41+1 AF4+2 4FD+5 2C+4 BD+2 75+4 7F+3 81+2 6+1 10+2 58+2 1+2 6C+1 12A+2 75+2 " ++
    "175+2 5+F 69+2 F9+3 205+1 1+1 FB+2 57+2 1A4+2 2B4+2 4A+2 4B29+2 85+1 41+2 B+1 229+2 128+1 " ++
    "4E06+1 1DE8+1")

/-- Letters with a dot that marks above them replace. -/
def softDotted : RangeTable := .ofText
  ("69+2 C4+1 119+1 1E+1 34+1 14+1 140+1 62+1 1+1 1909+1 33+1 D+1 3+1 84+1 9D+1 1A5+1 D6+2 " ++
    "B32+1 1A7A5+2 32+2 32+2 32+2 32+2 32+2 32+2 32+2 32+2 32+2 32+2 32+2 32+2 886+1 131+2 " ++
    "1A+1")

/-- Punctuation marks at the end of parts of a text. -/
def terminals : RangeTable := .ofText
  ("21+1 A+1 1+1 B+2 3+1 33E+1 8+1 201+1 39+1 48+1 E+1 1+3 B4+1 2B+B 1+1 EB+2 36+6 1+8 1F+1 " ++
    "105+2 4F4+2 AC+1 4+6 137+2 315+8 305+1 7C+3 47+2 9D+3 3+1 27+4 2+2 13A+2 162+4 A2+2 A+2 " ++
    "1+3 1D+3 BB+5 3E+2 3A4+1 17+2 9+3 CAF+3 132+1 D+1 4+1 A+1 1+2 3+2 1AC+2 74FB+2 10D+3 E3+5 " ++
    "17E+2 56+2 5F+1 97+3 93+3 7F+1 10+2 F9+1 5226+1 2+2 39+3 1+4 A9+1 A+1 1+1 B+2 3+1 41+1 " ++
    "2+1 43A+1 30+1 486+1 C7+1 136+2 98+6 44+6 59+4 3B8+5 2C+4 BD+7 70+4 7F+3 81+2 6+1 10+2 " ++
    "58+5 6C+1 12A+2 75+3 C+2 166+4 3+F 69+2 F9+3 205+1 1+1 FB+2 57+2 4+2 19E+3 2D+1 285+2 " ++
    "4A+2 52B+5 45F9+2 85+1 41+3 A+1 229+2 127+2 4E06+1 1DE7+4")

/-- Unified ideographs. -/
def unifiedIdeographs : RangeTable := .ofText
  ("3400+19C0 40+5200 5A0E+2 1+1 1+2 A+1 1+1 1+2 2+3 105D6+A6E0 20+103A 6+DE 2+1682 E+1D31 " ++
    "F+26E 11A2+134B 5+1060")

/-- Characters that select a variant of the one before them. -/
def variationSelectors : RangeTable := .ofText "180B+3 1+1 E5F0+10 D02F0+F0"

/-- The characters of some general categories. -/
def ofCategories (categories : List Category) : CharClass := fun c =>
  categories.contains (category c)

/-- A character is cased: it is in upper, lower or title case. -/
def isCased : CharClass := fun c =>
  isLowercase c || isUppercase c || category c = .titlecaseLetter

/-- The character has a lowercase form. -/
def changesWhenLowercased : CharClass := fun c =>
  (isUppercase c || category c = .titlecaseLetter) && !fixedUppercase.members c

/-- The character has an uppercase form. -/
def changesWhenUppercased : CharClass := fun c =>
  (isLowercase c && !fixedLowercase.members c) || category c = .titlecaseLetter

/-- The character has a form for the beginning of words. -/
def changesWhenTitlecased : CharClass := fun c =>
  (isLowercase c && !fixedLowercase.members c && !georgianLetters.members c) ||
    uppercaseDigraphs.members c

/-- The character is folded to another one. -/
def changesWhenCasefolded : CharClass := fun c =>
  (changesWhenLowercased c && !cherokeeLetters.members c) || foldedOnly.members c

/-- The character may stand between letters where the case of a word is looked at. -/
def isCaseIgnorable : CharClass := fun c =>
  ofCategories [.nonspacingMark, .enclosingMark, .format, .modifierLetter, .modifierSymbol] c ||
    caseTransparent.members c

/-- The character is not shown where it is not supported. -/
def isDefaultIgnorable : CharClass := fun c =>
  (category c = .format || variationSelectors.members c || otherIgnorable.members c) &&
    !shownFormats.members c

/-- The character takes up space of its own. -/
def isGraphemeBase : CharClass := fun c =>
  !isExtending c && !ofCategories
    [.control, .format, .surrogate, .privateUse, .unassigned, .lineSeparator,
      .paragraphSeparator] c

/-- Identifiers may begin with the character. -/
def isIdentifierStart : CharClass := fun c =>
  ((category c).isLetter || category c = .letterNumber || otherIdentifierStart.members c) &&
    !patternSyntax.members c && !patternBlanks.members c

/-- Identifiers may go on with the character. -/
def isIdentifierContinue : CharClass := fun c =>
  isIdentifierStart c ||
    ((ofCategories [.nonspacingMark, .spacingMark, .decimalNumber, .connectorPunctuation] c ||
        otherIdentifierContinue.members c) &&
      !patternSyntax.members c && !patternBlanks.members c)

/-- The code point is set aside for good: it is never a character. -/
def isNoncharacter : CharClass := fun c =>
  0xFFFE ≤ c.toNat % 0x10000 || (0xFDD0 ≤ c.toNat && c.toNat ≤ 0xFDEF)

/-- The character joins those around it, or keeps them apart. -/
def isJoinControl : CharClass := fun c => c.toNat = 0x200C || c.toNat = 0x200D

/-- The properties, with their names. -/
def booleanProperties : List NamedClass :=
  [
    ⟨["ASCII_Hex_Digit", "AHex"], fun c => hexDigits.members c && c.toNat < 128⟩,
    ⟨["Alphabetic", "Alpha"], isAlphabetic⟩,
    ⟨["Bidi_Control", "Bidi_C"], bidiControl.members⟩,
    ⟨["Bidi_Mirrored", "Bidi_M"], bidiMirrored.members⟩,
    ⟨["Case_Ignorable", "CI"], isCaseIgnorable⟩,
    ⟨["Cased"], isCased⟩,
    ⟨["Changes_When_Casefolded", "CWCF"], changesWhenCasefolded⟩,
    ⟨["Changes_When_Casemapped", "CWCM"], fun c =>
      changesWhenLowercased c || changesWhenUppercased c || changesWhenTitlecased c⟩,
    ⟨["Changes_When_Lowercased", "CWL"], changesWhenLowercased⟩,
    ⟨["Changes_When_Titlecased", "CWT"], changesWhenTitlecased⟩,
    ⟨["Changes_When_Uppercased", "CWU"], changesWhenUppercased⟩,
    ⟨["Dash"], dashes.members⟩,
    ⟨["Default_Ignorable_Code_Point", "DI"], isDefaultIgnorable⟩,
    ⟨["Deprecated", "Dep"], deprecated.members⟩,
    ⟨["Diacritic", "Dia"], diacritics.members⟩,
    ⟨["Emoji"], emoji.members⟩,
    ⟨["Emoji_Component", "EComp"], emojiComponents.members⟩,
    ⟨["Emoji_Modifier", "EMod"], emojiModifiers.members⟩,
    ⟨["Emoji_Modifier_Base", "EBase"], emojiModifierBases.members⟩,
    ⟨["Emoji_Presentation", "EPres"], emojiPresentations.members⟩,
    ⟨["Extended_Pictographic", "ExtPict"], pictographs.members⟩,
    ⟨["Extender", "Ext"], extenders.members⟩,
    ⟨["Grapheme_Base", "Gr_Base"], isGraphemeBase⟩,
    ⟨["Grapheme_Extend", "Gr_Ext"], isExtending⟩,
    ⟨["Grapheme_Link", "Gr_Link"], graphemeLinks.members⟩,
    ⟨["Hex_Digit", "Hex"], hexDigits.members⟩,
    ⟨["Hyphen"], hyphens.members⟩,
    ⟨["IDS_Binary_Operator", "IDSB"], binaryOperators.members⟩,
    ⟨["IDS_Trinary_Operator", "IDST"], ternaryOperators.members⟩,
    ⟨["IDS_Unary_Operator", "IDSU"], unaryOperators.members⟩,
    ⟨["ID_Compat_Math_Continue"], fun c => mathStarts.members c || mathContinues.members c⟩,
    ⟨["ID_Compat_Math_Start"], mathStarts.members⟩,
    ⟨["ID_Continue", "IDC"], isIdentifierContinue⟩,
    ⟨["ID_Start", "IDS"], isIdentifierStart⟩,
    ⟨["Ideographic", "Ideo"], ideographs.members⟩,
    ⟨["Join_Control", "Join_C"], isJoinControl⟩,
    ⟨["Logical_Order_Exception", "LOE"], prevowels.members⟩,
    ⟨["Lowercase", "Lower"], isLowercase⟩,
    ⟨["Math"], fun c => category c = .mathSymbol || otherMath.members c⟩,
    ⟨["Modifier_Combining_Mark", "MCM"], combiningModifiers.members⟩,
    ⟨["Noncharacter_Code_Point", "NChar"], isNoncharacter⟩,
    ⟨["Other_Alphabetic", "OAlpha"], fun c =>
      isAlphabetic c && !(category c).isLetter && category c != .letterNumber⟩,
    ⟨["Other_Default_Ignorable_Code_Point", "ODI"], otherIgnorable.members⟩,
    ⟨["Other_Grapheme_Extend", "OGr_Ext"], fun c =>
      isExtending c && !ofCategories [.nonspacingMark, .enclosingMark] c⟩,
    ⟨["Other_ID_Continue", "OIDC"], otherIdentifierContinue.members⟩,
    ⟨["Other_ID_Start", "OIDS"], otherIdentifierStart.members⟩,
    ⟨["Other_Lowercase", "OLower"], fun c =>
      isLowercase c && category c != .lowercaseLetter⟩,
    ⟨["Other_Math", "OMath"], otherMath.members⟩,
    ⟨["Other_Uppercase", "OUpper"], fun c =>
      isUppercase c && category c != .uppercaseLetter⟩,
    ⟨["Pattern_Syntax", "Pat_Syn"], patternSyntax.members⟩,
    ⟨["Pattern_White_Space", "Pat_WS"], patternBlanks.members⟩,
    ⟨["Prepended_Concatenation_Mark", "PCM"], prependedMarks.members⟩,
    ⟨["Quotation_Mark", "QMark"], quotationMarks.members⟩,
    ⟨["Radical"], radicals.members⟩,
    ⟨["Regional_Indicator", "RI"], regionalIndicators.members⟩,
    ⟨["Sentence_Terminal", "STerm"], sentenceTerminals.members⟩,
    ⟨["Soft_Dotted", "SD"], softDotted.members⟩,
    ⟨["Terminal_Punctuation", "Term"], terminals.members⟩,
    ⟨["Unified_Ideograph", "UIdeo"], unifiedIdeographs.members⟩,
    ⟨["Uppercase", "Upper"], isUppercase⟩,
    ⟨["Variation_Selector", "VS"], variationSelectors.members⟩,
    ⟨["White_Space", "WSpace", "space"], Text.isBlank⟩,
    ⟨["XID_Continue", "XIDC"], fun c => isIdentifierContinue c && !unstableContinues.members c⟩,
    ⟨["XID_Start", "XIDS"], fun c => isIdentifierStart c && !unstableStarts.members c⟩
  ]

end CommandShell.Unicode.Version16
