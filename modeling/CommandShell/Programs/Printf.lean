import CommandShell.Programs.Call
import CommandShell.Programs.Decimal

/-!
# Formatted Printing

The formats of `printf`: text in which backslashes begin escapes and percent signs stand for
arguments. The format is used again as long as arguments are left. An argument that is no number
where one is wanted counts as zero, or as the number it begins with, and makes the program fail.
-/

namespace CommandShell.Programs

/-- What an escape stands for. -/
inductive Escape where
  /-- Some bytes. -/
  | bytes (bytes : Bytes)
  /-- Nothing is printed from here on. -/
  | stop
  /-- It is not complete. -/
  | fault
  deriving DecidableEq, Repr

/-- What differs between programs that print by formats or replace escapes. -/
structure PrintDialect where
  /-- Escapes give bytes by hexadecimal digits. -/
  hexadecimal : Bool
  /-- Escapes give quotes, and characters by their numbers; printing can stop in a format. -/
  extended : Bool
  /-- The code if there is no format or a mistake in it. -/
  faultCode : UInt8
  deriving DecidableEq, Repr

namespace PrintDialect

/-- The dialect of commands of the interpreter. -/
def ofInterpreter : PrintDialect := ⟨false, false, 2⟩

/-- The dialect of the program that prints arguments. -/
def ofEcho : PrintDialect := ⟨true, false, 1⟩

/-- The dialect of the program that prints by formats. -/
def ofProgram : PrintDialect := ⟨true, true, 1⟩

end PrintDialect

/-- The value of an octal digit. -/
def octalDigit? (c : Char) : Option Nat :=
  if '0' ≤ c ∧ c ≤ '7' then some (c.toNat - '0'.toNat) else none

/-- The value of a hexadecimal digit. -/
def hexadecimalDigit? (c : Char) : Option Nat :=
  if c.isDigit then some (c.toNat - '0'.toNat)
  else if 'a' ≤ c ∧ c ≤ 'f' then some (c.toNat - 'a'.toNat + 10)
  else if 'A' ≤ c ∧ c ≤ 'F' then some (c.toNat - 'A'.toNat + 10)
  else none

/-- Read at most `count` digits of a base: their value, and what is left. -/
def readDigitsOf (base : Nat) (digit? : Char → Option Nat) :
    (count value : Nat) → List Char → Nat × List Char
  | 0, value, text => (value, text)
  | _, value, [] => (value, [])
  | count + 1, value, c :: rest =>
    match digit? c with
    | some digit => readDigitsOf base digit? count (value * base + digit) rest
    | none => (value, c :: rest)

/-- The byte that a letter stands for after a backslash. -/
def escapeByte? : Char → Option UInt8
  | 'a' => some 0x07
  | 'b' => some 0x08
  | 'e' => some 0x1B
  | 'f' => some 0x0C
  | 'n' => some 0x0A
  | 'r' => some 0x0D
  | 't' => some 0x09
  | 'v' => some 0x0B
  | '\\' => some 0x5C
  | _ => none

/-- What a character given by its number stands for: itself if every set of characters has it. -/
def escapedCharacter (value : Nat) : Bytes :=
  if value < 0x80 then [UInt8.ofNat value]
  else
    let digits := (Nat.toDigits 16 value).map (·.toUpper)
    let (letter, width) := if value < 0x10000 then ("u", 4) else ("U", 8)
    utf8 ("\\" ++ letter ++ "".pushn '0' (width - digits.length) ++ String.ofList digits)

/-- The escape after a backslash, and what is left. In an argument, as opposed to a format, a zero
stands before octal digits. -/
def readEscape (dialect : PrintDialect) (inArgument : Bool) (text : List Char) :
    Escape × List Char :=
  let plain (c : Char) (rest : List Char) : Escape × List Char :=
    (.bytes (0x5C :: Utf8.encode [c]), rest)
  match text with
  | [] => (.bytes [0x5C], [])
  | 'c' :: rest => if inArgument || dialect.extended then (.stop, rest) else plain 'c' rest
  | '"' :: rest => if dialect.extended then (.bytes [0x22], rest) else plain '"' rest
  | 'x' :: rest =>
    let (value, after) := readDigitsOf 16 hexadecimalDigit? 2 0 rest
    if dialect.hexadecimal && after.length < rest.length then (.bytes [UInt8.ofNat value], after)
    else if dialect.extended then (.fault, rest)
    else plain 'x' rest
  | '0' :: rest =>
    let (value, rest) := readDigitsOf 8 octalDigit? (if inArgument then 3 else 2) 0 rest
    (.bytes [UInt8.ofNat value], rest)
  | c :: rest =>
    match escapeByte? c, octalDigit? c with
    | some byte, _ => (.bytes [byte], rest)
    | none, some _ =>
      let (value, rest) := readDigitsOf 8 octalDigit? 3 0 (c :: rest)
      (.bytes [UInt8.ofNat value], rest)
    | none, none =>
      if dialect.extended && (c = 'u' || c = 'U') then
        let count := if c = 'u' then 4 else 8
        let (value, after) := readDigitsOf 16 hexadecimalDigit? count 0 rest
        if after.length + count = rest.length then (.bytes (escapedCharacter value), after)
        else (.fault, rest)
      else plain c rest

/-- What is printed, and whether printing goes on after it. -/
structure Printed where
  /-- The bytes, piece by piece. -/
  pieces : List Bytes
  /-- Nothing is printed from here on. -/
  stopped : Bool
  /-- There is a mistake here. -/
  faulty : Bool
  deriving DecidableEq, Repr

namespace Printed

/-- Nothing is printed. -/
def nothing : Printed := ⟨[], false, false⟩

/-- Some bytes are printed. -/
def ofBytes (bytes : Bytes) : Printed := ⟨[bytes], false, false⟩

/-- Nothing is printed from here on. -/
def stop : Printed := ⟨[], true, false⟩

/-- Nothing is printed from here on because of a mistake. -/
def fault : Printed := ⟨[], true, true⟩

/-- Print something before. -/
def after (bytes : Bytes) (printed : Printed) : Printed :=
  { printed with pieces := bytes :: printed.pieces }

/-- The bytes that are printed. -/
def bytes (printed : Printed) : Bytes := printed.pieces.flatten

end Printed

/-- A text with its escapes replaced, as they are in arguments; `fuel` bounds the number of
steps. -/
def unescape (dialect : PrintDialect) : (fuel : Nat) → List Char → Printed
  | 0, _ | _, [] => .nothing
  | fuel + 1, '\\' :: rest =>
    match readEscape dialect true rest with
    | (.stop, _) => .stop
    | (.fault, _) => .fault
    | (.bytes bytes, rest) => (unescape dialect fuel rest).after bytes
  | fuel + 1, c :: rest => (unescape dialect fuel rest).after (Utf8.encode [c])

/-- How an argument is printed. -/
structure Conversion where
  /-- The signs that stand after the percent sign. -/
  flags : List Char
  /-- How wide it is at least. -/
  width : Nat
  /-- How many digits or characters it has. -/
  precision : Option Nat
  /-- What it is. -/
  letter : Char
  deriving DecidableEq, Repr

/-- Fill up to a width: on the right for the flag `-`, with zeros after the sign if `zeros` is
set. -/
def Conversion.fill (conversion : Conversion) (zeros : Bool) (sign body : Bytes) : Bytes :=
  let missing := conversion.width - sign.length - body.length
  if conversion.flags.contains '-' then sign ++ body ++ List.replicate missing 0x20
  else if zeros && conversion.flags.contains '0' then
    sign ++ List.replicate missing 0x30 ++ body
  else List.replicate missing 0x20 ++ sign ++ body

/-- The number that an argument begins with, and whether that is all of it. The character after a
quotation mark counts by its number. -/
def readInteger (arg : String) : Int × Bool :=
  match arg.toList with
  | '\'' :: c :: rest | '"' :: c :: rest => (c.toNat, rest.isEmpty)
  | text =>
    let text := text.dropWhile fun c => c = ' ' || ('\t' ≤ c && c ≤ '\r')
    let (negative, digits) := match text with
      | '-' :: digits => (true, digits)
      | '+' :: digits => (false, digits)
      | _ => (false, text)
    let signed (n : Nat) : Int := if negative then -(n : Int) else n
    let read (base : Nat) (digit? : Char → Option Nat) (digits : List Char) : Int × Bool :=
      let (value, rest) := readDigitsOf base digit? digits.length 0 digits
      (signed value, rest.isEmpty)
    let decimalDigit? (c : Char) : Option Nat :=
      if c.isDigit then some (c.toNat - '0'.toNat) else none
    match digits with
    | '0' :: x :: d :: rest =>
      if (x = 'x' || x = 'X') && (hexadecimalDigit? d).isSome then
        read 16 hexadecimalDigit? (d :: rest)
      else read 8 octalDigit? digits
    | '0' :: _ => read 8 octalDigit? digits
    | d :: _ => if d.isDigit then read 10 decimalDigit? digits else (0, false)
    | [] => (0, false)

/-- The largest and smallest numbers of 64 bits bound a number. -/
def clamp (n : Int) : Int × Bool :=
  let limit : Int := Nat.pow 2 63
  if n < -limit then (-limit, false) else if limit ≤ n then (limit - 1, false) else (n, true)

/-- Print an integer with a sign. -/
def Conversion.signed (conversion : Conversion) (n : Int) : Bytes :=
  let digits := toString n.natAbs
  let digits := match conversion.precision with
    | some count => String.ofList (List.replicate (count - digits.length) '0') ++ digits
    | none => digits
  let sign :=
    if n < 0 then "-"
    else if conversion.flags.contains '+' then "+"
    else if conversion.flags.contains ' ' then " "
    else ""
  conversion.fill conversion.precision.isNone (utf8 sign) (utf8 digits)

/-- Print an integer without a sign in some base. -/
def Conversion.unsigned (conversion : Conversion) (n : Int) : Bytes :=
  let value := (n % Nat.pow 2 64).toNat
  let base := match conversion.letter with
    | 'o' => 8
    | 'x' | 'X' => 16
    | _ => 10
  let digits := Nat.toDigits base value
  let digits := if conversion.letter = 'X' then digits.map Char.toUpper else digits
  let digits := match conversion.precision with
    | some count => List.replicate (count - digits.length) '0' ++ digits
    | none => digits
  let isAlternate := conversion.flags.contains '#' && value != 0
  let mark := match conversion.letter, isAlternate with
    | 'x', true => "0x"
    | 'X', true => "0X"
    | _, _ => ""
  let digits :=
    if conversion.letter = 'o' && isAlternate && digits.head? != some '0' then '0' :: digits
    else digits
  conversion.fill conversion.precision.isNone (utf8 mark) (Utf8.encode digits)

/-- Print a number with decimal places. -/
def Conversion.fraction (conversion : Conversion) (d : Decimal) : Bytes :=
  let size := d.machineSize
  let places := conversion.precision.getD 6
  let body := match conversion.letter.toLower with
    | 'e' => Decimal.scientific places size
    | 'g' => Decimal.general places size
    | _ => Decimal.fixedDigits places size
  let sign :=
    if d.units < 0 then "-"
    else if conversion.flags.contains '+' then "+"
    else if conversion.flags.contains ' ' then " "
    else ""
  let body := if conversion.letter.isUpper then body.toUpper else body
  conversion.fill true (utf8 sign) (utf8 body)

/-- The signs and sizes that a letter can have in a dialect. -/
def Conversion.isAllowed (dialect : PrintDialect) (conversion : Conversion) : Bool :=
  match dialect.extended, conversion.letter with
  | true, 'b' | true, 'q' =>
    conversion.flags.isEmpty && conversion.width = 0 && conversion.precision.isNone
  | true, 's' | true, 'c' => !conversion.flags.contains '0'
  | false, 'q' => false
  | _, _ => true

/-- Print an argument, or what stands for one that is missing: what is printed, and whether the
argument is as it should be. A missing number is zero, and so is an empty one. Nothing is printed
for a letter that means nothing. -/
def Conversion.print (dialect : PrintDialect) (conversion : Conversion) (arg : Option String) :
    Option (Printed × Bool) :=
  let text := arg.getD ""
  let cut (bytes : Bytes) : Bytes := match conversion.precision with
    | some count => bytes.take count
    | none => bytes
  let shown (bytes : Bytes) (isGood : Bool) : Option (Printed × Bool) :=
    some (.ofBytes bytes, isGood)
  if !conversion.isAllowed dialect then none
  else
    match conversion.letter with
    | 's' => shown (conversion.fill false [] (cut (utf8 text))) true
    | 'q' => shown (utf8 (quotedIfNeeded text)) true
    | 'b' =>
      let printed := unescape dialect text.length text.toList
      let bytes := conversion.fill false [] (cut printed.bytes)
      some ({ printed with pieces := [bytes] }, true)
    | 'c' =>
      let first := if text.isEmpty then [0] else (utf8 text).take 1
      shown (conversion.fill false [] first) true
    | 'd' | 'i' =>
      let (n, isGood) := if text.isEmpty then (0, true) else readInteger text
      let (n, fits) := clamp n
      shown (conversion.signed n) (isGood && fits)
    | 'u' | 'o' | 'x' | 'X' =>
      let (n, isGood) := if text.isEmpty then (0, true) else readInteger text
      shown (conversion.unsigned n) isGood
    | 'f' | 'F' | 'e' | 'E' | 'g' | 'G' =>
      let zero : Decimal := ⟨0, 0⟩
      match Decimal.read text.toList with
      | some (d, rest) => shown (conversion.fraction d) rest.isEmpty
      | none => shown (conversion.fraction zero) text.isEmpty
    | _ => none

/-- A run of printing: what is printed, the arguments that are left, and whether all is well. -/
structure PrintRun where
  /-- What is printed. -/
  printed : Printed
  /-- The arguments that are left. -/
  left : List String
  /-- No argument was wrong. -/
  isGood : Bool

/-- Print something before. -/
def PrintRun.after (bytes : Bytes) (run : PrintRun) : PrintRun :=
  { run with printed := run.printed.after bytes }

/-- Read a number, or take it from the arguments for `*`. -/
def readSize (text : List Char) (args : List String) :
    Option Int × List Char × List String :=
  match text with
  | '*' :: rest => (some (readInteger (args.headD "0")).1, rest, args.tail)
  | _ =>
    let digits := text.takeWhile Char.isDigit
    ((String.ofList digits).toInt?, text.drop digits.length, args)

/-- Read what stands between a percent sign and its letter: the conversion without a letter, what
is left of the format and of the arguments. -/
def readConversion (dialect : PrintDialect) (text : List Char) (args : List String) :
    Conversion × List Char × List String :=
  let flags := text.takeWhile fun c => "-+ 0#".contains c
  let (width, text, args) := readSize (text.drop flags.length) args
  let (precision, text, args) := match text with
    | '.' :: rest =>
      let (precision, text, args) := readSize rest args
      (some (precision.getD 0), text, args)
    | _ => (none, text, args)
  let text := if dialect.extended then text.dropWhile fun c => "hlLjzt".contains c else text
  let width := width.getD 0
  let flags := if width < 0 then '-' :: flags else flags
  let precision := precision.bind fun n => if n < 0 then none else some n.toNat
  (⟨flags, width.natAbs, precision, ' '⟩, text, args)

/-- Print a format once; `fuel` bounds the number of steps. -/
def formatOnce (dialect : PrintDialect) : (fuel : Nat) → List Char → List String → PrintRun
  | 0, _, args | _, [], args => ⟨.nothing, args, true⟩
  | fuel + 1, '\\' :: rest, args =>
    match readEscape dialect false rest with
    | (.stop, _) => ⟨.stop, args, true⟩
    | (.fault, _) => ⟨.fault, args, true⟩
    | (.bytes bytes, rest) => (formatOnce dialect fuel rest args).after bytes
  | fuel + 1, '%' :: '%' :: rest, args => (formatOnce dialect fuel rest args).after [0x25]
  | fuel + 1, '%' :: rest, args =>
    let (conversion, rest, args) := readConversion dialect rest args
    match rest with
    | [] => ⟨.fault, args, true⟩
    | letter :: rest =>
      match { conversion with letter }.print dialect args.head? with
      | none => ⟨.fault, args, true⟩
      | some (printed, isGood) =>
        if printed.stopped then ⟨printed, args.tail, isGood⟩
        else
          let others := formatOnce dialect fuel rest args.tail
          { others.after printed.bytes with isGood := isGood && others.isGood }
  | fuel + 1, c :: rest, args => (formatOnce dialect fuel rest args).after (Utf8.encode [c])

/-- Print a format until no arguments are left: what is printed, and the code that tells whether
all is well; `fuel` bounds the number of times. -/
def formatAll (dialect : PrintDialect) (format : List Char) :
    (fuel : Nat) → List String → Bytes × UInt8
  | 0, _ => ([], 0)
  | fuel + 1, args =>
    let run := formatOnce dialect format.length format args
    let code := if run.printed.faulty then dialect.faultCode else if run.isGood then 0 else 1
    if run.printed.stopped || run.left.isEmpty || run.left.length = args.length then
      (run.printed.bytes, code)
    else
      let (others, later) := formatAll dialect format fuel run.left
      (run.printed.bytes ++ others, if later = 0 then code else later)

/-- What `printf` prints for some arguments, and the code that it ends with; the first argument is
the format, unless it only ends the options. -/
def printf (dialect : PrintDialect) (args : List String) : Bytes × UInt8 :=
  match (if args.head? = some "--" then args.tail else args) with
  | [] => ([], dialect.faultCode)
  | format :: args => formatAll dialect format.toList (args.length + 1) args

end CommandShell.Programs
