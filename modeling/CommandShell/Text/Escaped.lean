import CommandShell.Unicode.Property

/-!
# Escaped Text

A text between double quotes in which everything is visible: quotes, backslashes and the usual
control characters have short escapes, and what cannot be shown is written by its number.
-/

namespace CommandShell.Text

/-- Letters that are shown as blanks: they fill up unfinished syllables of Hangul. -/
def isFiller (c : Char) : Bool :=
  ['\u115f', '\u1160', '\u3164', '\uffa0'].contains c

/-- A mark that would join what is before it. Modifier letters are shown by themselves. -/
def isJoining (c : Char) : Bool :=
  Unicode.isExtending c && Unicode.Category.of c != .modifierLetter

/-- A character as it is written between double quotes. Fillers, and marks that would join what is
before them, are written by their numbers too. -/
def escapedChar (c : Char) : List Char :=
  match c with
  | '"' => ['\\', '"']
  | '\\' => ['\\', '\\']
  | '\n' => ['\\', 'n']
  | '\r' => ['\\', 'r']
  | '\t' => ['\\', 't']
  | '\x00' => ['\\', '0']
  | _ =>
    if Unicode.isPrintable c && !isJoining c && !isFiller c then [c]
    else ['\\', 'u', '\x7b'] ++ Nat.toDigits 16 c.toNat ++ ['\x7d']

/-- A text between double quotes. -/
def quoted (text : String) : String :=
  String.ofList (['"'] ++ text.toList.flatMap escapedChar ++ ['"'])

end CommandShell.Text
