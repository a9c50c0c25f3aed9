import CommandShell.Text.Identifier
import CommandShell.Environment
import CommandShell.Line.Token

/-!
# Expansion

References to variables, `$NAME` with the longest name and `$?`, are replaced by the values of the
variables. Nothing is replaced inside single quotes or after a backslash inside double quotes. A
`$` that begins no reference stands for itself.

A value is inserted in such a way that splitting and quote removal find in it exactly the
characters it has: inside double quotes its quotes, backslashes and dollars are escaped; outside,
each quote is wrapped in quotes of the other kind. So text from a value never opens or closes a
quote, while outside quotes its blanks and pipes still separate words.

A token is gone over once. At a `$` the name behind it is taken at once, so that its characters
have been passed when their turn comes.
-/

namespace CommandShell.Line

/-- The name of the reference that a `$` before the text begins: `?`, or the longest name; nothing
if the `$` begins none. -/
def nameAfter : List Char → List Char
  | [] => []
  | c :: rest =>
    if c = '?' then ['?']
    else if Text.isNameStart c then c :: rest.takeWhile Text.isNameChar
    else []

section Scan

variable {σ : Type} (onChar : σ → Char → σ) (onReference : σ → List Char → Bool → σ)

mutual

/-- Go over a text, where `quote` is open and the first `passed` characters belong to a name that
has been taken already. What is done with a character that stays, and with a reference, is given:
a reference comes with its name, and with whether it stands in quotes. -/
def scan : (quote : Option Char) → (passed : Nat) → σ → List Char → σ
  | _, _, out, [] => out
  | quote, passed + 1, out, _ :: rest => scan quote passed out rest
  | quote, 0, out, c :: rest =>
    if (quote = some '\'' ∧ c = '\'') ∨ (quote = some '"' ∧ c = '"') then
      scan none 0 (onChar out c) rest
    else if quote = some '\'' then scan quote 0 (onChar out c) rest
    else if quote ≠ none ∧ c = '\\' then scanEscape quote (onChar out c) rest
    else if quote = none ∧ (c = '\'' ∨ c = '"') then scan (some c) 0 (onChar out c) rest
    else if c = '$' then
      if nameAfter rest = [] then scan quote 0 (onChar out c) rest
      else
        scan quote (nameAfter rest).length (onReference out (nameAfter rest) quote.isSome) rest
    else scan quote 0 (onChar out c) rest
termination_by structural _ _ _ text => text

/-- Keep the character behind a backslash, and go on. -/
def scanEscape : (quote : Option Char) → σ → List Char → σ
  | _, out, [] => out
  | quote, out, c :: rest => scan quote 0 (onChar out c) rest
termination_by structural _ _ text => text

end

end Scan

/-- The characters that stand for the character `c` of a value. -/
def guarded (quoted : Bool) (c : Char) : List Char :=
  if quoted then
    if c = '"' ∨ c = '\\' ∨ c = '$' then ['\\', c] else [c]
  else if c = '\'' then ['"', '\'', '"']
  else if c = '"' then ['\'', '"', '\'']
  else [c]

/-- A value as it is inserted into a token. -/
def guardedValue (quoted : Bool) (value : List Char) : List Char :=
  value.flatMap (guarded quoted)

/-- Put the value of a variable on top of a text, last character first. -/
def insertValue (env : Environment) (out name : List Char) (quoted : Bool) : List Char :=
  (guardedValue quoted (env.get (String.ofList name)).toList).reverseAux out

/-- Replace every reference in a token. -/
def expand (env : Environment) (token : Token) : List Char :=
  (scan (fun out c => c :: out) (insertValue env) none 0 [] token).reverse

/-- The variables that a token refers to, in order. -/
def references (token : Token) : List String :=
  let look (names : List String) (name : List Char) (_ : Bool) : List String :=
    String.ofList name :: names
  (scan (fun names _ => names) look none 0 [] token).reverse

end CommandShell.Line
