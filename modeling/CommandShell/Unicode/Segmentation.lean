import CommandShell.Unicode.Boolean

/-!
# Text Segmentation

The classes of characters by which a text is divided into what a user takes for characters, into
words and into sentences, from the Unicode Character Database, version 16.0. Each division has its
own classes, and each character is in at most one class of a division.
-/

namespace CommandShell.Unicode.Version16

/-- The number of the character lies between two others. -/
def isBetween (first last : Nat) : CharClass := fun c => first ≤ c.toNat && c.toNat ≤ last

/-- Spacing marks that do not belong to the character before them. -/
def detachedMarks : RangeTable := .ofText
  "102B+2 B+1 29+3 2+7 15+1 3+6 2+1 A+3 9C4+1 1+2 9016+1 1+1 6CA2+2"

/-- Vowel signs that are letters and belong to the character before them. -/
def attachedVowels : RangeTable := .ofText "E33+1 7F+1"

/-- Consonant signs that are written before the next consonant. -/
def prefixedConsonants : RangeTable := .ofText
  "D4E+1 10473+2 20D+1 56D+1 1+1 F8+1 49+6 2BC+1 1BB+1"

/-- Parts of Hangul syllables that open them. -/
def openingJamo : RangeTable := .ofText "1100+60 9800+1D"

/-- Vowels that carry a syllable. -/
def carryingJamo : RangeTable := .ofText "1160+48 C608+17 959C+1 3+4"

/-- Parts of Hangul syllables that close them. -/
def closingJamo : RangeTable := .ofText "11A8+58 C5CB+31"

/-- Katakana, with the marks used in it. -/
def katakanaLetters : RangeTable := .ofText
  "3031+5 65+2 3+5B 1+4 F0+10 D0+2F 1+58 CC0E+38 B052+4 1+7 1+2 1+1 11F+3 32+1 E+4"

/-- Hebrew letters. -/
def hebrewLetters : RangeTable := .ofText "5D0+1B 4+4 F52A+1 1+A 1+D 1+5 1+1 1+2 1+2 1+A"

/-- Letters of scripts that put no spaces between words, Hiragana among them. -/
def unspacedLetters : RangeTable := .ofText
  ("E01+30 1+2 C+7 3A+2 1+1 1+5 1+18 1+1 1+A 1+2 9+1 2+5 1+1 15+4 120+2B 14+1 10+6 4+4 3+1 " ++
    "3+2 7+3 4+D C+1 6F1+34 23+1 4+1 173+1E 2+5 B+2C 4+1A 56+35 52+1 1599+56 6+3 7940+5 1+A " ++
    "A+5 61+17 3+1 3+32 1+1 3+2 2+5 2+1 1+1 18+3 6C22+1B 25+7 98BA+11F 12+1 1D+3")

/-- Characters that are taken for letters within words without being alphabetic. -/
def letterLike : RangeTable := .ofText
  "2C2+4 C+6 6+2 5+7 1+1 1+11 25A+3 1+1 2B+1 68+1 11B+1 9FF8+F 9+2 67+2 3D0+1"

/-- Punctuation within numbers. -/
def numberPunctuation : RangeTable := .ofText
  "2C+1 E+1 342+1 20A+1 82+2 5E+1 18B+1 184B+1 DDCB+1 3+1 3B+1 3+1 B7+1 E+1"

/-- Punctuation within numbers and within words. -/
def innerPunctuation : RangeTable := .ofText "2E+1 1FE9+2 A+1 DE2D+1 B4+1 6+1"

/-- Punctuation within words. -/
def wordPunctuation : RangeTable := .ofText "3A+1 7C+1 2CF+1 1D7+1 94+1 1A32+1 DDEB+1 41+1 C4+1"

/-- Characters that connect words and numbers. -/
def connectors : RangeTable := .ofText "5F+1 1FCF+1 F+2 13+1 DDDE+2 18+3 EF+1"

/-- Characters that break lines, besides the usual two. -/
def lineBreaks : RangeTable := .ofText "B+2 78+1 1FA2+2"

/-- Spaces that stay together. -/
def wordSpaces : RangeTable := .ofText "20+1 165F+1 97F+7 1+3 54+1 FA0+1"

/-- Georgian capitals, which do not begin sentences. -/
def georgianCapitals : RangeTable := .ofText "1C90+2B 2+3"

/-- Characters that separate paragraphs, besides the usual two. -/
def sentenceBreaks : RangeTable := .ofText "85+1 1FA2+2"

/-- Full stops, which do not always end sentences. -/
def ambiguousTerminals : RangeTable := .ofText "2E+1 1FF5+1 DE2D+1 BB+1"

/-- Punctuation after which a sentence goes on. -/
def sentenceContinuers : RangeTable := .ofText
  ("2C+2 C+2 342+1 1DE+1 AE+2 1EA+1 1009+1 5+1 80A+2 FEC+1 CE0E+2 1+2 1C+2 1D+2 2+2 2+1 A+1 " ++
    "A8+2 C+2 48+1")

/-- Spaces after sentences. -/
def sentenceSpaces : RangeTable := .ofText "9+1 1+2 13+1 7F+1 15DF+1 97F+B 24+1 2F+1 FA0+1"

/-- Quotation marks that are in no category of paired punctuation. -/
def quotes : RangeTable := .ofText "22+1 4+1 2733+6 69F+2 4+3 2+1 1C86A+3"

/-- Syllables of Hangul: closed ones, or those that nothing closes. -/
def isSyllable (closed : Bool) : CharClass := fun c =>
  isBetween 0xAC00 0xD7A3 c && ((c.toNat - 0xAC00) % 28 != 0) == closed

/-- The joiner of zero width. -/
def zeroWidthJoiner : Char := '\u200d'

/-- The character belongs to the one before it. -/
def extendsCluster : CharClass := fun c => isExtending c || emojiModifiers.members c

/-- The character is a spacing mark that belongs to the character before it. -/
def isClusterMark : CharClass := fun c =>
  ((category c = .spacingMark && !extendsCluster c) || attachedVowels.members c) &&
    !detachedMarks.members c

/-- The character stands alone. -/
def isClusterControl : CharClass := fun c =>
  (ofCategories [.lineSeparator, .paragraphSeparator, .control, .format] c ||
      (category c = .unassigned && isDefaultIgnorable c)) &&
    c != '\r' && c != '\n' && !isJoinControl c && !prependedMarks.members c && !extendsCluster c

/-- The classes by which a text is divided into what a user takes for characters. -/
def clusterClasses : List NamedClass :=
  [ ⟨["Control", "CN"], isClusterControl⟩,
    ⟨["CR"], (· == '\r')⟩,
    ⟨["LF"], (· == '\n')⟩,
    ⟨["Extend", "EX"], extendsCluster⟩,
    ⟨["Prepend", "PP"], fun c => prependedMarks.members c || prefixedConsonants.members c⟩,
    ⟨["SpacingMark", "SM"], isClusterMark⟩,
    ⟨["Regional_Indicator", "RI"], regionalIndicators.members⟩,
    ⟨["ZWJ"], (· == zeroWidthJoiner)⟩,
    ⟨["L"], openingJamo.members⟩,
    ⟨["V"], carryingJamo.members⟩,
    ⟨["T"], closingJamo.members⟩,
    ⟨["LV"], isSyllable false⟩,
    ⟨["LVT"], isSyllable true⟩ ]

/-- The character belongs to the one before it within words. -/
def extendsWord : CharClass := fun c =>
  (extendsCluster c || category c = .spacingMark) && c != zeroWidthJoiner

/-- The character is a digit, or the sign that divides a number in Arabic, or goes around digits. -/
def isNumeric : CharClass := fun c =>
  isDigit c || c.toNat = 0x66B || (prependedMarks.members c && c.toNat != 0x70F)

/-- The character is a format control that words are not divided at. -/
def isWordFormat : CharClass := fun c =>
  category c = .format && c.toNat != 0x200B && !isJoinControl c && !extendsWord c &&
    !prependedMarks.members c

/-- The character is a letter of a script that puts spaces between words. -/
def isWordLetter : CharClass := fun c =>
  letterLike.members c ||
    (isAlphabetic c && !ideographs.members c && !katakanaLetters.members c &&
      !hebrewLetters.members c && !unspacedLetters.members c && !extendsWord c)

/-- The classes by which a text is divided into words. -/
def wordClasses : List NamedClass :=
  [ ⟨["ALetter", "LE"], isWordLetter⟩,
    ⟨["CR"], (· == '\r')⟩,
    ⟨["LF"], (· == '\n')⟩,
    ⟨["Double_Quote", "DQ"], (· == '"')⟩,
    ⟨["Single_Quote", "SQ"], (· == '\'')⟩,
    ⟨["Extend"], extendsWord⟩,
    ⟨["ExtendNumLet", "EX"], connectors.members⟩,
    ⟨["Format", "FO"], isWordFormat⟩,
    ⟨["Hebrew_Letter", "HL"], hebrewLetters.members⟩,
    ⟨["Katakana", "KA"], katakanaLetters.members⟩,
    ⟨["MidLetter", "ML"], wordPunctuation.members⟩,
    ⟨["MidNum", "MN"], numberPunctuation.members⟩,
    ⟨["MidNumLet", "MB"], innerPunctuation.members⟩,
    ⟨["Newline", "NL"], lineBreaks.members⟩,
    ⟨["Numeric", "NU"], isNumeric⟩,
    ⟨["Regional_Indicator", "RI"], regionalIndicators.members⟩,
    ⟨["WSegSpace"], wordSpaces.members⟩,
    ⟨["ZWJ"], (· == zeroWidthJoiner)⟩ ]

/-- The character belongs to the one before it within sentences. -/
def extendsSentence : CharClass := fun c =>
  isExtending c || category c = .spacingMark || c == zeroWidthJoiner

/-- The character is a lowercase letter that a sentence may go on with. -/
def isSentenceLower : CharClass := fun c =>
  isLowercase c && !isExtending c && !georgianLetters.members c

/-- The character is a capital that a sentence may begin with. -/
def isSentenceUpper : CharClass := fun c =>
  (isUppercase c || category c = .titlecaseLetter) && !georgianCapitals.members c

/-- The character is a letter in no case. -/
def isSentenceLetter : CharClass := fun c =>
  c.toNat = 0x5F3 || (isAlphabetic c && !isSentenceLower c && !isSentenceUpper c &&
    !extendsSentence c)

/-- The character is a digit or stands within numbers. -/
def isSentenceNumeric : CharClass := fun c => isNumeric c || c.toNat = 0x66C

/-- The character is a format control that sentences are not divided at. -/
def isSentenceFormat : CharClass := fun c =>
  category c = .format && !isJoinControl c && !extendsSentence c && !isSentenceNumeric c

/-- The character ends sentences. -/
def endsSentence : CharClass := fun c =>
  sentenceTerminals.members c && !ambiguousTerminals.members c

/-- The character is paired punctuation. -/
def isPaired : CharClass := fun c =>
  quotes.members c || ofCategories
    [.openPunctuation, .closePunctuation, .initialPunctuation, .finalPunctuation] c

/-- The classes by which a text is divided into sentences. -/
def sentenceClasses : List NamedClass :=
  [ ⟨["ATerm", "AT"], ambiguousTerminals.members⟩,
    ⟨["Close", "CL"], isPaired⟩,
    ⟨["CR"], (· == '\r')⟩,
    ⟨["LF"], (· == '\n')⟩,
    ⟨["Extend", "EX"], extendsSentence⟩,
    ⟨["Format", "FO"], isSentenceFormat⟩,
    ⟨["OLetter", "LE"], isSentenceLetter⟩,
    ⟨["Lower", "LO"], isSentenceLower⟩,
    ⟨["Numeric", "NU"], isSentenceNumeric⟩,
    ⟨["SContinue", "SC"], sentenceContinuers.members⟩,
    ⟨["Sep", "SE"], sentenceBreaks.members⟩,
    ⟨["Sp", "SP"], sentenceSpaces.members⟩,
    ⟨["STerm", "ST"], endsSentence⟩,
    ⟨["Upper", "UP"], isSentenceUpper⟩ ]

end CommandShell.Unicode.Version16
