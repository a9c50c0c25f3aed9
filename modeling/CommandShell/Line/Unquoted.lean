/-!
# Quote Removal

Quotes that open and close disappear; what stands between them stays. Inside double quotes a
backslash with `"`, `\` or `$` stands for that character, `\n` is a newline and `\t` a tab, and any
other backslash stays. An unfinished quote is taken to reach to the end.
-/

namespace CommandShell.Line

/-- What a backslash inside double quotes and the character behind it stand for. -/
def unescaped (c : Char) : List Char :=
  if c = 'n' then ['\n']
  else if c = 't' then ['\t']
  else if c = '"' ∨ c = '\\' ∨ c = '$' then [c]
  else ['\\', c]

/-! The loops over the characters, one outside quotes and one for either kind of quotes. What is
left is collected in `out`, last character first. -/

mutual

/-- Remove quotes from what begins outside quotes. -/
def unquoteBare (out : List Char) : List Char → List Char
  | [] => out.reverse
  | c :: rest =>
    if c = '\'' then unquoteSingle out rest
    else if c = '"' then unquoteDouble out rest
    else unquoteBare (c :: out) rest
termination_by structural text => text

/-- Keep everything up to the next single quote. -/
def unquoteSingle (out : List Char) : List Char → List Char
  | [] => out.reverse
  | c :: rest => if c = '\'' then unquoteBare out rest else unquoteSingle (c :: out) rest
termination_by structural text => text

/-- Keep everything up to the next double quote, apart from backslashes. -/
def unquoteDouble (out : List Char) : List Char → List Char
  | [] => out.reverse
  | c :: rest =>
    if c = '"' then unquoteBare out rest
    else if c = '\\' then unquoteEscape out rest
    else unquoteDouble (c :: out) rest
termination_by structural text => text

/-- Keep what a backslash and the next character stand for, and go on in double quotes. -/
def unquoteEscape (out : List Char) : List Char → List Char
  | [] => ('\\' :: out).reverse
  | c :: rest => unquoteDouble ((unescaped c).reverseAux out) rest
termination_by structural text => text

end

/-- Remove the quotes of a token. -/
def unquote (token : List Char) : List Char :=
  unquoteBare [] token

@[simp]
theorem unquote_nil : unquote [] = [] := rfl

end CommandShell.Line
