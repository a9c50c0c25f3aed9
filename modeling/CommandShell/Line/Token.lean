import CommandShell.Text.Blank
import CommandShell.Error

/-!
# Tokens

A line is split into tokens at blank characters outside quotes. A `|` outside quotes is a token of
its own. Quoted parts stay as they are written, quotes included, and belong to the token around
them, so `aaa"bbb"ccc` is one token. A line whose last quote is not closed has no tokens.

A line is split in one pass over its characters, with a loop of its own for what stands in quotes.
-/

namespace CommandShell.Line

/-- A token as it is written, quotes included. -/
abbrev Token := List Char

/-- The token that separates the stages of a pipeline. -/
def pipe : Token := ['|']

/-- The complaint that a quote is not closed, with advice on how to mend the line. -/
def unclosed (quote : Char) : Error :=
  if quote = '"' then
    .unclosedQuote quote (some "add the closing \" or write \\\" for a literal quote")
  else
    .unclosedQuote quote (some "add the closing ' (nothing can be escaped inside single quotes)")

/-- Put the token that has been collected, last character first, on top of the finished ones. -/
def flushed (current : Token) (tokens : List Token) : List Token :=
  if current.isEmpty then tokens else current.reverse :: tokens

/-! The loops over the characters, one outside quotes and one for either kind of quotes. Each of the
latter goes back to the first where its quote closes. In double quotes a backslash takes the next
character with it. The characters of a token are collected in `current` and the finished tokens in
`tokens`, both last first. -/

mutual

/-- Split what stands outside quotes. -/
def splitBare (current : Token) (tokens : List Token) : List Char → Except Error (List Token)
  | [] => .ok (flushed current tokens).reverse
  | c :: rest =>
    if c = '|' then splitBare [] (pipe :: flushed current tokens) rest
    else if Text.isBlank c then splitBare [] (flushed current tokens) rest
    else if c = '\'' then splitSingle (c :: current) tokens rest
    else if c = '"' then splitDouble (c :: current) tokens rest
    else splitBare (c :: current) tokens rest
termination_by structural text => text

/-- Go on to the end of single quotes. -/
def splitSingle (current : Token) (tokens : List Token) : List Char → Except Error (List Token)
  | [] => .error (unclosed '\'')
  | c :: rest =>
    if c = '\'' then splitBare (c :: current) tokens rest
    else splitSingle (c :: current) tokens rest
termination_by structural text => text

/-- Go on to the end of double quotes. -/
def splitDouble (current : Token) (tokens : List Token) : List Char → Except Error (List Token)
  | [] => .error (unclosed '"')
  | c :: rest =>
    if c = '"' then splitBare (c :: current) tokens rest
    else if c = '\\' then splitEscape (c :: current) tokens rest
    else splitDouble (c :: current) tokens rest
termination_by structural text => text

/-- Take the character behind a backslash, and go on in double quotes. -/
def splitEscape (current : Token) (tokens : List Token) : List Char → Except Error (List Token)
  | [] => .error (unclosed '"')
  | c :: rest => splitDouble (c :: current) tokens rest
termination_by structural text => text

end

/-- Split a line into tokens. -/
def tokenize (line : List Char) : Except Error (List Token) :=
  splitBare [] [] line

@[simp]
theorem tokenize_nil : tokenize [] = .ok [] := rfl

end CommandShell.Line
