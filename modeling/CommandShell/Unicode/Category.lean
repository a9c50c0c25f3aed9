/-!
# General Categories

The general category of every character, from the table of the Unicode Character Database,
version 17.0. The table is kept as runs of code points of one category, in order and without
gaps, so that the sum of the lengths of the runs before a run is its first code point.
-/

namespace CommandShell.Unicode

/-- The general category of a code point. -/
inductive Category where
  /-- An uppercase letter. -/
  | uppercaseLetter
  /-- A lowercase letter. -/
  | lowercaseLetter
  /-- A digraph with its first part in uppercase. -/
  | titlecaseLetter
  /-- A modifier letter. -/
  | modifierLetter
  /-- Any other letter, such as a syllable or an ideograph. -/
  | otherLetter
  /-- A combining mark that takes no space. -/
  | nonspacingMark
  /-- A combining mark that takes space. -/
  | spacingMark
  /-- An enclosing combining mark. -/
  | enclosingMark
  /-- A decimal digit. -/
  | decimalNumber
  /-- A number written with a letter-like sign. -/
  | letterNumber
  /-- Any other number. -/
  | otherNumber
  /-- A connecting punctuation mark, such as the underscore. -/
  | connectorPunctuation
  /-- A dash. -/
  | dashPunctuation
  /-- An opening punctuation mark. -/
  | openPunctuation
  /-- A closing punctuation mark. -/
  | closePunctuation
  /-- An initial quotation mark. -/
  | initialPunctuation
  /-- A final quotation mark. -/
  | finalPunctuation
  /-- Any other punctuation mark. -/
  | otherPunctuation
  /-- A mathematical symbol. -/
  | mathSymbol
  /-- A currency sign. -/
  | currencySymbol
  /-- A modifier that is no letter. -/
  | modifierSymbol
  /-- Any other symbol. -/
  | otherSymbol
  /-- A space. -/
  | spaceSeparator
  /-- The line separator. -/
  | lineSeparator
  /-- The paragraph separator. -/
  | paragraphSeparator
  /-- A control code. -/
  | control
  /-- A format control character. -/
  | format
  /-- A surrogate code point. -/
  | surrogate
  /-- A private-use character. -/
  | privateUse
  /-- A code point that is not assigned. -/
  | unassigned
  deriving DecidableEq, Repr

namespace Category

/-- Every category with its abbreviation, its name and the letter that stands for it in the table
of runs. -/
def index : List (Category × String × String × Char) :=
  [ (.uppercaseLetter, "Lu", "Uppercase_Letter", 'g'),
    (.lowercaseLetter, "Ll", "Lowercase_Letter", 'h'),
    (.titlecaseLetter, "Lt", "Titlecase_Letter", 'i'),
    (.modifierLetter, "Lm", "Modifier_Letter", 'j'),
    (.otherLetter, "Lo", "Other_Letter", 'k'),
    (.nonspacingMark, "Mn", "Nonspacing_Mark", 'l'),
    (.spacingMark, "Mc", "Spacing_Mark", 'm'),
    (.enclosingMark, "Me", "Enclosing_Mark", 'n'),
    (.decimalNumber, "Nd", "Decimal_Number", 'o'),
    (.letterNumber, "Nl", "Letter_Number", 'p'),
    (.otherNumber, "No", "Other_Number", 'q'),
    (.connectorPunctuation, "Pc", "Connector_Punctuation", 'r'),
    (.dashPunctuation, "Pd", "Dash_Punctuation", 's'),
    (.openPunctuation, "Ps", "Open_Punctuation", 't'),
    (.closePunctuation, "Pe", "Close_Punctuation", 'u'),
    (.initialPunctuation, "Pi", "Initial_Punctuation", 'v'),
    (.finalPunctuation, "Pf", "Final_Punctuation", 'w'),
    (.otherPunctuation, "Po", "Other_Punctuation", 'x'),
    (.mathSymbol, "Sm", "Math_Symbol", 'y'),
    (.currencySymbol, "Sc", "Currency_Symbol", 'z'),
    (.modifierSymbol, "Sk", "Modifier_Symbol", 'G'),
    (.otherSymbol, "So", "Other_Symbol", 'H'),
    (.spaceSeparator, "Zs", "Space_Separator", 'I'),
    (.lineSeparator, "Zl", "Line_Separator", 'J'),
    (.paragraphSeparator, "Zp", "Paragraph_Separator", 'K'),
    (.control, "Cc", "Control", 'L'),
    (.format, "Cf", "Format", 'M'),
    (.surrogate, "Cs", "Surrogate", 'N'),
    (.privateUse, "Co", "Private_Use", 'O'),
    (.unassigned, "Cn", "Unassigned", 'P') ]

/-- The category that a letter of the table stands for. -/
def ofLetter (letter : Char) : Category :=
  match index.find? (·.2.2.2 == letter) with
  | some (category, _) => category
  | none => .unassigned

/-- The runs of the table: each is the letter of a category followed by the number of its code
points in hexadecimal. -/
def runs : String :=
  "L20I1x3z1x3t1u1x1y1x1s1x2oAx2y3x2g1At1x1u1G1r1G1h1At1y1u1y1L21I1x1z4H1x1G1H1k1v1y1M1H1G1H1y" ++
    "1q2G1h1x2G1q1k1w1q3x1g17y1g7h18y1h8g1h1g1h1g1h1g1h1g1h1g1h1g1h1g1h1g1h1g1h1g1h1g1h1g1h1g1h1" ++
    "g1h1g1h1g1h1g1h1g1h1g1h1g1h1g1h1g1h1g1h1g1h1g1h1g1h1g1h2g1h1g1h1g1h1g1h1g1h1g1h1g1h1g1h2g1h" ++
    "1g1h1g1h1g1h1g1h1g1h1g1h1g1h1g1h1g1h1g1h1g1h1g1h1g1h1g1h1g1h1g1h1g1h1g1h1g1h1g1h1g1h1g1h1g2" ++
    "h1g1h1g1h3g2h1g1h1g2h1g3h2g4h1g2h1g3h3g2h1g2h1g1h1g1h1g2h1g1h2g1h1g2h1g3h1g1h1g2h2k1g1h3k4g" ++
    "1i1h1g1i1h1g1i1h1g1h1g1h1g1h1g1h1g1h1g1h1g1h1g1h2g1h1g1h1g1h1g1h1g1h1g1h1g1h1g1h1g1h2g1i1h1" ++
    "g1h1g3h1g1h1g1h1g1h1g1h1g1h1g1h1g1h1g1h1g1h1g1h1g1h1g1h1g1h1g1h1g1h1g1h1g1h1g1h1g1h1g1h1g1h" ++
    "1g1h1g1h1g1h1g1h1g1h1g1h1g1h1g1h7g2h1g2h2g1h1g4h1g1h1g1h1g1h1g1h45k2h1Aj12G4jCGEj5G7j1G1j1G" ++
    "11l70g1h1g1h1j1G1g1h1P2j1h3x1g1P4G2g1x1g3P1g1P1g2h1g11P1g9h23g1h2g3h3g1h1g1h1g1h1g1h1g1h1g1" ++
    "h1g1h1g1h1g1h1g1h1g1h1g1h5g1h1y1g1h1g2h2g33h30g1h1g1h1g1h1g1h1g1h1g1h1g1h1g1h1g1h1g1h1g1h1g" ++
    "1h1g1h1g1h1g1h1g1h1g1h1H1l5n2g1h1g1h1g1h1g1h1g1h1g1h1g1h1g1h1g1h1g1h1g1h1g1h1g1h1g1h1g1h1g1" ++
    "h1g1h1g1h1g1h1g1h1g1h1g1h1g1h1g1h1g1h1g1h1g1h1g2h1g1h1g1h1g1h1g1h1g1h1g1h2g1h1g1h1g1h1g1h1g" ++
    "1h1g1h1g1h1g1h1g1h1g1h1g1h1g1h1g1h1g1h1g1h1g1h1g1h1g1h1g1h1g1h1g1h1g1h1g1h1g1h1g1h1g1h1g1h1" ++
    "g1h1g1h1g1h1g1h1g1h1g1h1g1h1g1h1g1h1g1h1g1h1g1h1g1h1g1h1g1h1g1h1g1h1g1h1g1h1g1h1g1h1P1g26P2" ++
    "j1x6h29x1s1P2H2z1P1l2Ds1l1x1l2x1l2x1l1P8k1BP4k4x2PBM6y3x2z1x2H2lBx1M1x3k20j1kAl15oAx4k2l1k6" ++
    "3x1k1l7M1H1l6j2l2H1l4k2oAk3H2k1xEP1M1k1l1k1El1BP2k59lBk1PEoAk21l9j2H1x3j1P2l1z2k16l4j1l9j1l" ++
    "3j1l5P2xFP1k19l3P2x1P1kBP5k18G1k7M2P5l9k29j1l18M1l20m1k36l1m1l1k1m3l8m4l1m2k1l7kAl2x2oAx1j1" ++
    "kFl1m2P1k8P2k2P2k16P1k7P1k1P3k4P2l1k1m3l4P2m2P2m2l1k1P8m1P4k2P1k3l2P2oAk2z2q6H1z1k1x1l1P2l2" ++
    "m1P1k6P4k2P2k16P1k7P1k2P1k2P1k2P2l1P1m3l2P4l2P2l3P3l1P7k4P1k1P7oAl2k3l1x1PAl2m1P1k9P1k3P1k1" ++
    "6P1k7P1k2P1k5P2l1k1m3l5P1l2m1P1m2l1P2k1PFk2l2P2oAx1z1P7k1l6P1l1m2P1k8P2k2P2k16P1k7P1k2P1k5P" ++
    "2l1k1m1l1m1l4P2m2P2m2l1P7l2m1P4k2P1k3l2P2oAH1k1q6PAl1k1P1k6P3k3P1k4P3k2P1k1P1k2P3k2P3k3P3kC" ++
    "P4m2l1m2P3m3P1m3l1P2k1P6m1PEoAq3H6z1H1P5l1m3l1k8P1k3P1k17P1k10P2l1k1l3m4P1l3P1l4P7l2P1k3P1k" ++
    "2P2k2l2P2oAP7x1q7H1k1l1m2x1k8P1k3P1k17P1kAP1k5P2l1k1m1l1m5P1l1m2P1m2l2P7m2P5k3P1k2l2P2oAP1k" ++
    "2m1PCl2m2k9P1k3P1k29l2k1m3l4P1m3P1m3l1k1H1P4k3m1q7k3l2P2oAq9H1k6P1l1m2P1k12P3k18P1k9P1k1P2k" ++
    "7P3l1P4m3l3P1l1P1m8P6oAP2m2x1PCk30l1k2l7P4z1k6j1l8x1oAx2P25k2P1k1P1k5P1k18P1k1P1kAl1k2l9k1P" ++
    "2k5P1j1P1l7P1oAP2k4P20k1H3xFH1x1H3l2H6oAqAH1l1H1l1H1l1t1u1t1u1m2k8P1k24P4lEm1l5x1l2k5lBP1l2" ++
    "4P1H8l1H6P1H2x5H4x2P25k2Bm2l4m1l6m1l2m2l2k1oAx6k6m2l2k4l3k1m3k2m7k3l4kDl1m2l2m6l1k1m1oAm3l1" ++
    "H2g26P1g1P5g1P2h2Bx1j1h3k149P1k4P2k7P1k1P1k4P2k29P1k4P2k21P1k4P2k7P1k1P1k4P2kFP1k39P1k4P2k4" ++
    "3P2l3x9q14P3k10HAP6g56P2h6P2s1k26CH1x1k11I1k1At1u1P3k4Bx3p3k8P7k12l3m1P9k13l2m1x2P9k12l2PCk" ++
    "DP1k3P1l2PCk34l2m1l7m8l1m2lBx3j1x3z1k1l1P2oAP6qAP6x6s1x4l3M1l1oAP6k23j1k35P7k5l2k22l1k1P5k4" ++
    "6PAk1FP1l3m4l2m3P4m2l1m6l3P4H1P3x2oAk1EP2k5PBk2CP4k1AP6oAq1P3H22k17l2m2l1P2x2k35m1l1m1l7P1l" ++
    "1m1l1m2l8m6lAP2l1oAP6oAP6x7j1x6P2lEn1l1FP2lCP14l4m1k2Fl1m1l5m1l1m5l1m2k8P1x2oAx7HAl9H9x3l2m" ++
    "1k1Em1l4m2l2m1l3k2oAk2Cl1m1l2m3l1m1l3m2P8x4k24m8l8m2l2P3x5oAP3k3oAk1Ej6x2h9g1h1P5g2BP2g3x8P" ++
    "8l3x1lDm1l7k4l1k6l1k2m1l2k1P5h2Cj3FhDj1h22j25l40g1h1g1h1g1h1g1h1g1h1g1h1g1h1g1h1g1h1g1h1g1h" ++
    "1g1h1g1h1g1h1g1h1g1h1g1h1g1h1g1h1g1h1g1h1g1h1g1h1g1h1g1h1g1h1g1h1g1h1g1h1g1h1g1h1g1h1g1h1g1" ++
    "h1g1h1g1h1g1h1g1h1g1h1g1h1g1h1g1h1g1h1g1h1g1h1g1h1g1h1g1h1g1h1g1h1g1h1g1h1g1h1g1h1g1h1g1h1g" ++
    "1h1g1h1g1h1g1h1g1h1g1h1g1h1g1h1g1h1g1h1g1h1g1h1g1h1g1h1g1h1g1h1g1h1g1h1g1h9g1h1g1h1g1h1g1h1" ++
    "g1h1g1h1g1h1g1h1g1h1g1h1g1h1g1h1g1h1g1h1g1h1g1h1g1h1g1h1g1h1g1h1g1h1g1h1g1h1g1h1g1h1g1h1g1h" ++
    "1g1h1g1h1g1h1g1h1g1h1g1h1g1h1g1h1g1h1g1h1g1h1g1h1g1h1g1h1g1h1g1h1g1h1g1h1g1h1g1h1g1h1g1h9g8" ++
    "h6P2g6P2h8g8h8g8h6P2g6P2h8P1g1P1g1P1g1P1g1h8g8hEP2h8i8h8i8h8i8h5P1h2g4i1G1h1G3h3P1h2g4i1G3h" ++
    "4P2h2g4P1G3h8g5G3P2h3P1h2g4i1G2P1IBM5s6x2v1w1t1v2w1t1v1x8J1K1M5I1x9v1w1x4r2x3y1t1u1xBy1x1r1" ++
    "xAI1M5P1MAq1j1P2q6y3t1u1j1qAy3t1u1P1jDP3z22PElDn4l1n3lCPFH2g1H4g1H2h1g3h2g3h1H1g1H2y1g5H6g1" ++
    "H1g1H1g1H1g4H1h1g4h1k4h1H2h2g2y5g1h4H1y1H2h1H1q10p23g1h1p4q1H2P4y5H5y2H4y1H2y1H2y1H7y1H1Fy2" ++
    "H2y1H1y1H1Fy10CH8t1u1t1u1H14y2H7t1u1H51y1H1Ey19H28y6H48P16HBP15q3CH4Eq16HB7y1H9y1H36y8H6Fy1" ++
    "HF8t1u1t1u1t1u1t1u1t1u1t1u1t1u1q1EH2Cy5t1u1y1Ft1u1t1u1t1u1t1u1t1u1y10H100y83t1u1t1u1t1u1t1u" ++
    "1t1u1t1u1t1u1t1u1t1u1t1u1t1u1y3Ft1u1t1u1y20t1u1y102H30y15H2y6H27P2H8Ag30h30g1h1g3h2g1h1g1h1" ++
    "g1h1g4h1g1h2g1h6j2g3h1g1h1g1h1g1h1g1h1g1h1g1h1g1h1g1h1g1h1g1h1g1h1g1h1g1h1g1h1g1h1g1h1g1h1g" ++
    "1h1g1h1g1h1g1h1g1h1g1h1g1h1g1h1g1h1g1h1g1h1g1h1g1h1g1h1g1h1g1h1g1h1g1h1g1h1g1h1g1h1g1h1g1h1" ++
    "g1h1g1h1g1h1g1h1g1h1g1h1g1h1g1h1g1h2H6g1h1g1h1l3g1h1P5x4q1x2h26P1h1P5h1P2k38P7j1x1PEl1k17P9" ++
    "k7P1k7P1k7P1k7P1k7P1k7P1k7P1k7P1l20x2v1w1v1w1x3v1w1x1v1w1x9s1x2s1x1v1w1x2v1w1t1u1t1u1t1u1t1" ++
    "u1x5j1xAs2x4s1x1t1xDH2x3t1u1t1u1t1u1t1u1s1P22H1AP1H59PCHD6P1AH10I1x3H1j1k1p1t1u1t1u1t1u1t1u" ++
    "1t1u1H2t1u1t1u1t1u1t1u1s1t1u2H1p9l4m2s1j5H2p3j1k1x1H2P1k56P2l2G2j2k1s1k5Ax1j3k1P5k2BP1k5EP1" ++
    "H2q4HAk20H26P9H1k10H1FP1qAH1Eq8H1qFH20qAH27qFH140k19C0H40k5215j1k477P3H37P9k28j6x2k10Cj1x3k" ++
    "10oAk2P14g1h1g1h1g1h1g1h1g1h1g1h1g1h1g1h1g1h1g1h1g1h1g1h1g1h1g1h1g1h1g1h1g1h1g1h1g1h1g1h1g1" ++
    "h1g1h1g1h1k1l1n3x1lAx1j1g1h1g1h1g1h1g1h1g1h1g1h1g1h1g1h1g1h1g1h1g1h1g1h1g1h1g1h1j2l2k46pAl2" ++
    "x6P8G17j9G2g1h1g1h1g1h1g1h1g1h1g1h1g1h3g1h1g1h1g1h1g1h1g1h1g1h1g1h1g1h1g1h1g1h1g1h1g1h1g1h1" ++
    "g1h1g1h1g1h1g1h1g1h1g1h1g1h1g1h1g1h1g1h1g1h1g1h1g1h1g1h1g1h1g1h1g1h1g1h1j1h8g1h1g1h1g2h1g1h" ++
    "1g1h1g1h1g1h1j1G2g1h1g1h1k1g1h1g1h3g1h1g1h1g1h1g1h1g1h1g1h1g1h1g1h1g1h1g1h1g5h1g5h1g1h1g1h1" ++
    "g1h1g1h1g1h1g1h1g1h1g4h1g1h1g2h1g1h1g1h1g1h1g1h1g1h1g1h1g1h1g1P14j4g1h1k1j2h1k7l1k3l1k4l1k1" ++
    "7m2l2m1H4l1P3q6H2z1H1P6k34x4P8m2k32m10l2P8x2oAP6l12k6x3k1x1k2l1oAk1Cl8x2k17lBm2PBx1k1DP3l3m" ++
    "1k2Fl1m2l4m2l2m3xDP1j1oAP4x2k5l1j1k9oAk5P1k29l6m2l2m2l2P9k3l1k8l1m1P2oAP2x4k10j1k6H3k1m1l1m" ++
    "1k32l1k1l3k2l2k5l2k1l1k1P18k2j1x2kBm1l2m2x2k1j2m1l1PAk6P2k6P2k6P9k7P1k7P1h2BG1j4h9j1G2P4h50" ++
    "k23m2l1m2l1m2x1m1l1P2oAP6k2BA4PCk17P4k31P4N800O1900k16EP2k6AP26h7PCh5P5k1l1kAy1kDP1k5P1k1P1" ++
    "k2P1k2P1k6CG11H10k16Bu1t1H10k40H2k36H8P20kCz1H3l10x7t1u1x1P6l10x1s2r2t1u1t1u1t1u1t1u1t1u1t1" ++
    "u1t1u1t1u1x2t1u1x4r3x3P1x4s1t1u1t1u1t1u1x3y1s1y3P1x1z1x2P4k5P1k87P2M1P1x3z1x3t1u1x1y1x1s1x2" ++
    "oAx2y3x2g1At1x1u1G1r1G1h1At1y1u1y1t1u1x1t1u1x2kAj1k2Dj2k1FP3k6P2k6P2k6P2k3P3z2y1G1H1z2P1H1y" ++
    "4H2PAM3H2P2kCP1k1AP1k13P1k2P1kFP2kEP22k7BP5x3P4q2DP3H9p35q4H11q2H3P1HDP3H1P2FH2Dl1P82k1DP3k" ++
    "31PFl1q1BP4k20q4P9k14p1k8p1P5k26l5P5k1EP1x1k24P4k8x1p5P2Ag28h28k4EP2oAP6g24P4h24P4k28P8k34P" ++
    "Bx1gBP1gFP1g7P1g2P1hBP1hFP1h7P1h2P3k34PCk137P9k16PAk8P18j6P1j2AP1j9P45k6P2k1P1k2CP1k2P3k1P2" ++
    "k17P1x1q8k17H2q7k1FP8q9P30k13P1k2P5q5k16q6P3x1k1AP5x1k1AP26k38P4q2k2q10P2q2Ek1l3P1l2P5l4k4P" ++
    "1k3P1k1DP2l3P4l1q9P7x9P7k1Dq2x1k1Dq3P20k8H1k1Cl2P4q5x7P9k36P3x7k16P2q8k13P5q8k12P7x4PCq7P50" ++
    "k49P37g33PDh33P7q6k24l4P8oAP6oAk4j1k1g16P3l5s1j1h16P8y2PD0q1FP1k2AP1l2s1P2k2P10k3j1k2P8x1H8" ++
    "P21l6k1DqAk1P8k16lBq4x5P16k12l4x4P26k15q7P14k17P9m1l1m1k35lFx7P4q14oAl1k2l2k1P9l3m1k2Dm3l4m" ++
    "2l2x2M1x4l1PAM1P2k19P7oAP6l3k24l5m1l8P1oAx4k1m2k1P8k23l1x2k1P9l2m1k30m3l9m2k4x4l4x1m1l1oAk1" ++
    "x1k1x3P1q14PBk12P1k19m3l3m2l1m1l2x6l1k2l1P3Ek7P1k1P1k4P1kFP1kAx1P6k2Fl1m3l8P5oAP6l2m2P1k8P2" ++
    "k2P2k16P1k7P1k2P1k5P1l2k1m2l1m4P2m2P2m3P2k1P6m1P5k5m2P2l7P3l5PBkAP1k1P2k1P1k26P1k1m3l6P1m1P" ++
    "2m1P1m4P1m2l1m1l1k1l1k1x2P1x2P8l2P1Dk35m3l8m2l3m1l1k4x5oAx2P1x1l1k3P1Ek30m3l6m1l1m4l2m1l2k2" ++
    "x1k1P8oAPA6k2Fm3l4P2m4l2m1l2x17k4l2P22k30m3l8m2l1m1l2x3k1PBoAP6xDP13k2Bl1m1l1m2l6m1l1k1x1P6" ++
    "oAP6o14P1Ck1BP2l1m1l1m2l4m1l5P4oAq2x3H1k7PB9k2Cm3l9m1l2x1P64g20h20oAq9PCk8P2k1P2k8P1k2P1k18" ++
    "m6P1m2P2l2m1l1k1m1k1m1l1x3P9oAP46k8P2k27m3l4P2l2m4l1k1x1k1m1P1Bk1lAk28l6m1k1l4x8l1P8k1l6m2l" ++
    "3k2ElDm1l2x3k1x5PDk49P7xAP56l1m1l3m1l1m1P58k21x1PEoAP6k9P1k25m1l7P1l6m1l1k1x5PAoAq13P3x2k1E" ++
    "P2l16P1m1l7m1l2m1l2P49k7P1k2P1k26l6P3l1P1l2P1l7k1l1P8oAP6k6P1k2P1k20m5P1l2P1m2l1m1l1k1P7oAP" ++
    "6k29j1k2P4oAPF6k13l2m2x2P7l2k1m1kDP1k22m2l5P3m2l1m1l1xDoAl1P55k1PFq15H8z4H11PDx1k39AP66p6FP" ++
    "1x5PBkC4PA4Ck61x2PDk430M10l1k6lFPAkF9BP5k247P1AB9k1ElCm3l3oAP6C6k239P7k1FP1oAP4x2k4FP1oAP6k" ++
    "1EP2l5x1PAk30l7x5H4j4x1H1PAoAP1q7P1k15P5k13P1B0j3k28j2x3oAPC6g20h20q17x4P5g19P2h19P2Ck4BP4l" ++
    "1k1m37P7l4jDP40j2x1j1l1PBm2j2p3P9k1CD6P29k20P61k73P21FDj4P1j7P1j2P1k123PFk1P1Dk3P2k1PEk4P8k" ++
    "18CP904k6BP5kDP3k9P7kAP2H1l2x1M4PF5CHF0oAH3P3H1B4P6H17PFH10y1PFl2EP2l17P9H74P3CHF6PAH27P2H3" ++
    "Cm2l3H3m6M8l8H2l7H1El4H3DP15H42l3H1P7Aq14PCq14PCH57P9q19P87g1Ah1Ag1Ah7P1h12g1Ah1Ag1P1g2P2g1" ++
    "P2g2P2g4P1g8h4P1h1P1h7P1hBg1Ah1Ag2P1g4P2g8P1g7P1h1Ag2P1g4P1g5P1g1P3g7P1h1Ag1Ah1Ag1Ah1Ag1Ah1" ++
    "Ag1Ah1Ag1Ah1Ag1Ah1CP2g19y1h19y1h6g19y1h19y1h6g19y1h19y1h6g19y1h19y1h6g19y1h19y1h6g1h1P2o32H" ++
    "200l37H4l32H8l1HEl1H2x5PFl5P1lFP450hAk1h14P6h6PD5l7P1l11P2l7P1l2P1l5P5j3EP21l1P70k2DP3l7j7P" ++
    "2oAP4k1H1P140k1El1P11k2Cl4oAP5z1P1D0k1Bj1l4oAPD6k1El2k1oAP4x1PC0k1FP1k3l1k2l1k7l2k5l1P8k1j1" ++
    "PE0k7P1k4P1k2P1kFP1kC5P2q9l7P29g22h22l7j1P4oAP4x2P311q3BH1q3z1q4P4Cq2DH1qFPC2k4P1k1BP1k2P1k" ++
    "1P2k1P1kAP1k4P1k1P1k1P6k1P4k1P1k1P1k1P1k3P1k2P1k1P2k1P1k1P1k1P1k1P1k1P1k2P1k1P2k4P1k7P1k4P1" ++
    "k4P1k1P1kAP1k11P5k3P1k5P1k11P34y2P10EH2CP4H64PCHFP2HFP1HFP1H25PAqDHA1P38H1DPDH2CP4H9P7H2PEH" ++
    "6P9AHFBG5H2D9P3H11P3HDP3HDAP6HCP4H1PFHCP4H38P8HAP6H28P8H1EP2HCP4H2PEy9P27H158P8HEP2HDP3HBP3" ++
    "H39P1H1P4H10P2HCP4HAP7H93P1H5CoAH1P405kA6E0P20k111EP2k168EP2k1D31PFk26EP9A2k21EP5E2k134BP5k" ++
    "212APACB87M1P1EM60P80lF0PFE10OFFFEP2OFFFEP2"

/-- The value of a hexadecimal digit in capitals. -/
def hexValue (c : Char) : Nat :=
  if c.isDigit then c.toNat - '0'.toNat else c.toNat - 'A'.toNat + 10

/-- Read the runs: `starts` holds the first code points and categories of the runs so far, the
run being read has category `category`, begins at `first` and is `length` long as far as read. -/
def readRuns (starts : Array (Nat × Category)) (category : Category) (first length : Nat) :
    List Char → Array (Nat × Category)
  | [] => starts.push (first, category)
  | c :: rest =>
    if c.isDigit || ('A' ≤ c && c ≤ 'F') then
      readRuns starts category first (length * 16 + hexValue c) rest
    else
      readRuns (starts.push (first, category)) (ofLetter c) (first + length) 0 rest

/-- The first code point and the category of every run, in order. -/
def table : Array (Nat × Category) :=
  readRuns #[] .unassigned 0 0 runs.toList

/-- The category of the last run among those from `low` below `high` that begins at `n` or
before; `fuel` bounds the number of halvings. -/
def search (n : Nat) : (fuel low high : Nat) → Category
  | 0, low, _ => ((table[low]?).map (·.2)).getD .unassigned
  | fuel + 1, low, high =>
    if high ≤ low + 1 then ((table[low]?).map (·.2)).getD .unassigned
    else
      let middle := (low + high) / 2
      match table[middle]? with
      | some (first, _) =>
        if first ≤ n then search n fuel middle high else search n fuel low middle
      | none => .unassigned

/-- The category of a character. -/
def of (c : Char) : Category :=
  search c.toNat 16 0 table.size

/-- The category is one of the letters. -/
def isLetter : Category → Bool
  | .uppercaseLetter | .lowercaseLetter | .titlecaseLetter | .modifierLetter | .otherLetter => true
  | _ => false

/-- The category is one of the combining marks. -/
def isMark : Category → Bool
  | .nonspacingMark | .spacingMark | .enclosingMark => true
  | _ => false

/-- The category is one of the numbers. -/
def isNumber : Category → Bool
  | .decimalNumber | .letterNumber | .otherNumber => true
  | _ => false

/-- The category is one of the punctuation marks. -/
def isPunctuation : Category → Bool
  | .connectorPunctuation | .dashPunctuation | .openPunctuation | .closePunctuation
  | .initialPunctuation | .finalPunctuation | .otherPunctuation => true
  | _ => false

/-- The category is one of the symbols. -/
def isSymbol : Category → Bool
  | .mathSymbol | .currencySymbol | .modifierSymbol | .otherSymbol => true
  | _ => false

/-- The category is one of the separators. -/
def isSeparator : Category → Bool
  | .spaceSeparator | .lineSeparator | .paragraphSeparator => true
  | _ => false

/-- The category is one of those that are not shown. -/
def isOther : Category → Bool
  | .control | .format | .surrogate | .privateUse | .unassigned => true
  | _ => false

end Category

end CommandShell.Unicode
