import CommandShell.Programs.Records.Syntax
import CommandShell.Programs.Regular.Reader
import CommandShell.Text.Identifier

/-!
# Lexical Items of Programs on Records

How the text of a program is cut into items. A slash begins a regular expression unless an operand
stands before it, which it then divides.
-/

namespace CommandShell.Programs.Records

/-- A lexical item. -/
inductive Token where
  /-- A number. -/
  | number (n : Float)
  /-- A text. -/
  | text (bytes : Bytes)
  /-- A regular expression. -/
  | regular (regular : Regular)
  /-- A name. -/
  | name (name : String)
  /-- A name with a parenthesis behind it. -/
  | caller (name : String)
  /-- The name of a function that is always there. -/
  | builtin (name : String)
  /-- A word with a meaning of its own. -/
  | keyword (word : String)
  /-- An operator or another sign. -/
  | sign (mark : String)
  /-- The end of a line. -/
  | newline

namespace Token

/-- Words with a meaning of their own. -/
def keywords : List String :=
  ["BEGIN", "END", "function", "if", "else", "while", "for", "do", "break", "continue", "next",
    "exit", "return", "delete", "in", "getline", "print", "printf"]

/-- The functions that are always there. -/
def builtins : List String :=
  ["length", "substr", "index", "split", "sub", "gsub", "match", "sprintf", "sin", "cos", "atan2",
    "exp", "log", "sqrt", "int", "rand", "srand", "tolower", "toupper", "system", "close", "fflush"]

/-- The signs, longer ones first. -/
def signs : List String :=
  ["&&", "||", "==", "<=", ">=", "!=", "++", "--", "+=", "-=", "*=", "/=", "%=", "^=", "!~", ">>",
    "\x7b", "\x7d", "(", ")", "[", "]", ";", ",", "+", "-", "*", "/", "%", "^", "!", "<", ">", "|",
    "?", ":", "~", "$", "="]

/-- The item is the end of an operand. -/
def endsOperand : Token → Bool
  | .number _ | .text _ | .name _ | .builtin _ => true
  | .sign mark => [")", "]", "$", "++", "--"].contains mark
  | _ => false

end Token

/-- The byte that a letter stands for after a backslash. -/
def letterByte? (c : Char) : Option UInt8 :=
  if c = '"' then some 0x22 else if c = '/' then some 0x2F else escapeByte? c

/-- Replace escapes in a text. A backslash before a character that needs none is kept, and so is
the backslash itself if `keeps` is set. -/
def replaceEscapes (keeps : Bool) : (fuel : Nat) → Bytes → Bytes
  | 0, text => text
  | _, [] => []
  | fuel + 1, 0x5C :: b :: rest =>
    let c := Char.ofNat b.toNat
    if b = 0x5C then
      if keeps then 0x5C :: 0x5C :: replaceEscapes keeps fuel rest
      else 0x5C :: replaceEscapes keeps fuel rest
    else
      match letterByte? c, octalDigit? c with
      | some byte, _ => byte :: replaceEscapes keeps fuel rest
      | none, some _ =>
        let (value, after) := readDigitsOf 8 octalDigit? 3 0 (charsOf (b :: rest))
        let left := (b :: rest).drop (rest.length + 1 - after.length)
        UInt8.ofNat value :: replaceEscapes keeps fuel left
      | none, none => 0x5C :: b :: replaceEscapes keeps fuel rest
  | fuel + 1, b :: rest => b :: replaceEscapes keeps fuel rest

/-- The regular expression that a text is; one that cannot be read matches nothing. -/
def regularOf? (text : Bytes) : Option Regular :=
  (Regular.read true (replaceEscapes true text.length text)).toOption

/-- What stands before a closing character that no backslash protects, and what is left; in
brackets a slash closes nothing. -/
def takeUntil (close : Char) : (inBrackets : Bool) → List Char → Option (List Char × List Char)
  | _, [] => none
  | inBrackets, '\\' :: c :: rest =>
    (takeUntil close inBrackets rest).map fun (text, left) => ('\\' :: c :: text, left)
  | inBrackets, c :: rest =>
    if c = close && !inBrackets then some ([], rest)
    else if c = '\n' && close = '/' then none
    else
      let inBrackets := close = '/' && (c = '[' || (inBrackets && c != ']'))
      (takeUntil close inBrackets rest).map fun (text, left) => (c :: text, left)

/-- The word that a name is. -/
def wordToken (name : String) (after : List Char) : Token :=
  let name := if name = "func" then "function" else name
  if Token.keywords.contains name then .keyword name
  else if Token.builtins.contains name then .builtin name
  else if after.head? = some '(' then .caller name
  else .name name

/-- Cut a program into its items; `last` is the item before, and `fuel` bounds their number. -/
def tokens : (fuel : Nat) → (last : Option Token) → List Char → Option (List Token)
  | _, _, [] => some []
  | 0, _, _ => none
  | fuel + 1, last, c :: rest =>
    let add (token : Token) (rest : List Char) : Option (List Token) :=
      (tokens fuel (some token) rest).map (token :: ·)
    if c = '\n' then add .newline rest
    else if c = ' ' || c = '\t' || c = '\r' then tokens fuel last rest
    else if c = '\\' && rest.head? = some '\n' then tokens fuel last rest.tail
    else if c = '#' then tokens fuel last (rest.dropWhile (· != '\n'))
    else if c = '"' then do
      let (text, rest) ← takeUntil '"' false rest
      let bytes := Utf8.encode (text.filter (· != '\n'))
      add (.text (replaceEscapes false bytes.length bytes)) rest
    else if c = '/' && !last.any Token.endsOperand then do
      let (text, rest) ← takeUntil '/' false rest
      add (.regular (← regularOf? (Utf8.encode text))) rest
    else if c.isDigit || (c = '.' && rest.head?.any Char.isDigit) then do
      let (n, rest) ← leadingNumber (c :: rest)
      add (.number n) rest
    else if Text.isNameStart c then
      let name := (c :: rest).takeWhile Text.isNameChar
      let after := rest.drop (name.length - 1)
      add (wordToken (String.ofList name) after) after
    else do
      let sign ← Token.signs.find? fun sign => sign.toList.isPrefixOf (c :: rest)
      add (.sign sign) ((c :: rest).drop sign.length)

end CommandShell.Programs.Records
