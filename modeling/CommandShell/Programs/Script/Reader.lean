import CommandShell.Programs.Script.Syntax
import CommandShell.Text.Identifier

/-!
# Reading Scripts

Scripts are read a line at a time, since what stands before a mistake is run before the mistake is
noticed. All readers take a text and give what they have read together with the rest of the text;
they give nothing if the text is no script. The bound on their steps is a multiple of the length
of the text, which is more than they need.
-/

namespace CommandShell.Programs.Script

/-- Where the parts of a word are read, which says where they end and what is special in them. -/
inductive Mode where
  /-- Outside of quotes, up to a character that ends words. -/
  | word
  /-- In braces, up to the closing one. -/
  | operand (quoted : Bool)
  /-- Between double quotes. -/
  | double
  /-- In a document, up to its end. -/
  | document
  /-- In an arithmetic expression, with so many open parentheses. -/
  | arithmetic (depth : Nat)
  deriving DecidableEq, Repr

/-- The character ends a word outside of quotes. -/
def endsWord (c : Char) : Bool :=
  " \t\n;|&<>()".contains c

namespace Mode

/-- Quotes mean nothing, and neither do blanks. -/
def isQuoted : Mode → Bool
  | .word | .operand false => false
  | _ => true

/-- The text after the end of the word, if it ends here. -/
def end? (mode : Mode) (text : List Char) : Option (List Char) :=
  match mode, text with
  | .word, [] | .document, [] => some []
  | .word, c :: rest => if endsWord c then some (c :: rest) else none
  | .operand _, '\x7d' :: rest | .double, '"' :: rest
  | .arithmetic 0, ')' :: ')' :: rest => some rest
  | _, _ => none

/-- The character is special. -/
def isSpecial (mode : Mode) (c : Char) : Bool :=
  c = '\\' || c = '$' || c = '\x60' ||
    match mode with
    | .word => endsWord c || c = '\'' || c = '"'
    | .operand quoted => c = '\x7d' || c = '"' || (c = '\'' && !quoted)
    | .double => c = '"'
    | .document => false
    | .arithmetic _ => c = '(' || c = ')'

/-- A backslash takes the meaning of the character after it away. -/
def isEscapable (mode : Mode) (c : Char) : Bool :=
  match mode with
  | .word | .operand false => true
  | .double | .operand true => "$\x60\"\\".contains c
  | .document | .arithmetic _ => "$\x60\\".contains c

end Mode

/-- Pass over blanks and comments within a line. -/
def skipBlanks : List Char → List Char
  | ' ' :: rest | '\t' :: rest | '\\' :: '\n' :: rest => skipBlanks rest
  | '#' :: rest => rest.dropWhile (· != '\n')
  | text => text

/-- Pass over blanks, comments and line ends; `fuel` bounds the number of lines. -/
def skipLines : (fuel : Nat) → List Char → List Char
  | 0, text => text
  | fuel + 1, text =>
    match skipBlanks text with
    | '\n' :: rest => skipLines fuel rest
    | rest => rest

/-- The word that a text begins with, as it is written. -/
def peekWord (text : List Char) : String :=
  String.ofList (text.takeWhile (!endsWord ·))

/-- Words that end a list of commands. -/
def closingWords : List String :=
  ["then", "else", "elif", "fi", "do", "done", "esac", "\x7d"]

/-- A list of commands ends here. -/
def isClosed (text : List Char) : Bool :=
  match text with
  | [] | ')' :: _ | ';' :: ';' :: _ => true
  | _ => closingWords.contains (peekWord text)

/-- The text after a word that must stand here. -/
def expectWord (word : String) (text : List Char) : Option (List Char) :=
  let text := skipLines text.length text
  if peekWord text = word then some (text.drop word.length) else none

/-- The text after a character that must stand here. -/
def expectChar (c : Char) (text : List Char) : Option (List Char) :=
  match text with
  | d :: rest => if c = d then some rest else none
  | [] => none

/-- What stands up to the closing backquote, without the backslashes that protect characters in
it. -/
def takeBackquoted (quoted : Bool) : List Char → Option (List Char × List Char)
  | [] => none
  | '\x60' :: rest => some ([], rest)
  | '\\' :: c :: rest =>
    (takeBackquoted quoted rest).map fun (inner, rest) =>
      if "$\x60\\".contains c || (quoted && c = '"') then (c :: inner, rest)
      else ('\\' :: c :: inner, rest)
  | c :: rest => (takeBackquoted quoted rest).map fun (inner, rest) => (c :: inner, rest)

/-- The lines of a document up to the line that ends it, and the text after that; `strip` takes
tabs away from the beginning of lines, and `fuel` bounds the number of lines. -/
def takeDocument (strip : Bool) (delimiter : List Char) :
    (fuel : Nat) → List Char → List Char × List Char
  | 0, text => ([], text)
  | _, [] => ([], [])
  | fuel + 1, text =>
    let line := text.takeWhile (· != '\n')
    let ending := (text.drop line.length).take 1
    let rest := (text.drop line.length).drop 1
    let line := if strip then line.dropWhile (· == '\t') else line
    if line = delimiter then ([], rest)
    else
      let (lines, rest) := takeDocument strip delimiter fuel rest
      (line ++ ending ++ lines, rest)

/-- The text of a word that is not expanded, and whether a part of it is quoted. -/
def plainText (word : Word) : List Char × Bool :=
  word.foldl (fun (chars, quoted) part =>
    match part with
    | .text more isQuoted => (chars ++ more, quoted || isQuoted)
    | _ => (chars, quoted)) ([], false)

/-- The change that stands after the name of a parameter, with what is left. -/
def readChange (text : List Char) : Change × List Char :=
  match text with
  | ':' :: '-' :: rest => (.otherwise true, rest)
  | ':' :: '=' :: rest => (.assign true, rest)
  | ':' :: '?' :: rest => (.insist true, rest)
  | ':' :: '+' :: rest => (.instead true, rest)
  | '-' :: rest => (.otherwise false, rest)
  | '=' :: rest => (.assign false, rest)
  | '?' :: rest => (.insist false, rest)
  | '+' :: rest => (.instead false, rest)
  | '#' :: '#' :: rest => (.dropPrefix true, rest)
  | '#' :: rest => (.dropPrefix false, rest)
  | '%' :: '%' :: rest => (.dropSuffix true, rest)
  | '%' :: rest => (.dropSuffix false, rest)
  | '\x7d' :: _ => (.none, text)
  | _ => (.unknown, text)

/-- The name of a parameter at the beginning of a text: an identifier, a number or a sign. -/
def readName (text : List Char) : Option (String × List Char) :=
  match text with
  | [] => none
  | c :: rest =>
    let name :=
      if Text.isNameStart c then text.takeWhile Text.isNameChar
      else if c.isDigit then text.takeWhile Char.isDigit
      else if "?$#@*!-".contains c then [c]
      else []
    if name.isEmpty then none
    else some (String.ofList name, (c :: rest).drop name.length)

/-- The part of a word that a simple parameter is, as it stands after a dollar sign; a number has
one digit only. -/
def readSimpleParameter (quoted : Bool) (text : List Char) : Part × List Char :=
  match readName text with
  | none => (.text ['$'] quoted, text)
  | some (name, rest) =>
    if (name.front).isDigit then (.parameter (name.take 1).toString quoted .none [], text.drop 1)
    else (.parameter name quoted .none [], rest)

/-- A word that gives a variable a value. -/
def assignment? (word : Word) : Option Assignment :=
  match word with
  | .text chars false :: rest =>
    let name := chars.takeWhile (· != '=')
    match chars.drop name.length with
    | _ :: value =>
      if Text.isIdentifier name then
        some (.mk (String.ofList name) (if value.isEmpty then rest else .text value false :: rest))
      else none
    | [] => none
  | _ => none

/-- How a redirection begins: its descriptor, if it is given, its sign, and what is left. -/
def readSign (text : List Char) : Option (Option Nat × String × List Char) :=
  let digits := text.takeWhile Char.isDigit
  let descriptor := (String.ofList digits).toNat?
  match text.drop digits.length with
  | '<' :: '<' :: '-' :: rest => some (descriptor, "<<-", rest)
  | '<' :: '<' :: rest => some (descriptor, "<<", rest)
  | '<' :: '&' :: rest => some (descriptor, "<&", rest)
  | '<' :: '>' :: rest => some (descriptor, "<>", rest)
  | '<' :: rest => some (descriptor, "<", rest)
  | '>' :: '>' :: rest => some (descriptor, ">>", rest)
  | '>' :: '&' :: rest => some (descriptor, ">&", rest)
  | '>' :: '|' :: rest => some (descriptor, ">|", rest)
  | '>' :: rest => some (descriptor, ">", rest)
  | _ => none

mutual

/-- Read the parts of a word up to its end. -/
def readParts : (fuel : Nat) → Mode → List Char → Option (Word × List Char)
  | 0, _, _ => none
  | fuel + 1, mode, text =>
    match mode.end? text, text with
    | some rest, _ => some ([], rest)
    | none, [] => none
    | none, c :: rest => do
      let (first, mode, rest) ← readPart fuel mode c rest
      let (others, rest) ← readParts fuel mode rest
      return (first ++ others, rest)

/-- Read what begins with a character, and how reading goes on after it. -/
def readPart : (fuel : Nat) → Mode → Char → List Char → Option (Word × Mode × List Char)
  | 0, _, _, _ => none
  | fuel + 1, mode, c, rest =>
    let quoted := mode.isQuoted
    match c with
    | '\\' =>
      match rest with
      | [] => some ([.text ['\\'] true], mode, [])
      | '\n' :: rest => some ([], mode, rest)
      | d :: rest =>
        some ([.text (if mode.isEscapable d then [d] else ['\\', d]) true], mode, rest)
    | '$' => do
      let (part, rest) ← readDollar fuel quoted rest
      return ([part], mode, rest)
    | '\x60' => do
      let (inner, rest) ← takeBackquoted quoted rest
      let (body, left) ← readList fuel inner
      if left.isEmpty then return ([.output body quoted], mode, rest) else none
    | _ =>
      match mode, c with
      | .arithmetic depth, '(' => some ([.text [c] true], .arithmetic (depth + 1), rest)
      | .arithmetic depth, ')' => some ([.text [c] true], .arithmetic (depth - 1), rest)
      | _, _ =>
        if mode.isSpecial c && c = '"' then do
          let (inner, rest) ← readParts fuel .double rest
          return (if inner.isEmpty then [.text [] true] else inner, mode, rest)
        else if mode.isSpecial c && c = '\'' then
          let inner := rest.takeWhile (· != '\'')
          match rest.drop inner.length with
          | [] => none
          | _ :: rest => some ([.text inner true], mode, rest)
        else
          let run := c :: rest.takeWhile (!mode.isSpecial ·)
          some ([.text run quoted], mode, rest.drop (run.length - 1))

/-- Read the expansion that a dollar sign begins. -/
def readDollar : (fuel : Nat) → (quoted : Bool) → List Char → Option (Part × List Char)
  | 0, _, _ => none
  | fuel + 1, quoted, text =>
    match text with
    | '(' :: '(' :: rest =>
      match readParts fuel (.arithmetic 0) rest with
      | some (expression, rest) => some (.arithmetic expression quoted, rest)
      | none => readOutput fuel quoted ('(' :: rest)
    | '(' :: rest => readOutput fuel quoted rest
    | '\x7b' :: rest => readBraces fuel quoted rest
    | _ => some (readSimpleParameter quoted text)

/-- Read commands in parentheses whose output is asked for. -/
def readOutput : (fuel : Nat) → (quoted : Bool) → List Char → Option (Part × List Char)
  | 0, _, _ => none
  | fuel + 1, quoted, text => do
    let (body, rest) ← readList fuel text
    return (.output body quoted, ← expectChar ')' rest)

/-- Read a parameter in braces. -/
def readBraces : (fuel : Nat) → (quoted : Bool) → List Char → Option (Part × List Char)
  | 0, _, _ => none
  | fuel + 1, quoted, text =>
    match text, readName (text.drop 1) with
    | '#' :: _, some (name, '\x7d' :: rest) => some (.parameter name quoted .length [], rest)
    | _, _ => do
      let (name, rest) ← readName text
      let (change, rest) := readChange rest
      let isPattern := match change with
        | .dropPrefix _ | .dropSuffix _ => true
        | _ => false
      let (operand, rest) ← readParts fuel (.operand (quoted && !isPattern)) rest
      return (.parameter name quoted change operand, rest)

/-- Read commands up to where their list is closed. -/
def readList : (fuel : Nat) → List Char → Option (List Command × List Char)
  | 0, _ => none
  | fuel + 1, text =>
    let text := skipLines text.length text
    if isClosed text then some ([], text)
    else do
      let (first, rest) ← readChain fuel text
      match skipBlanks rest with
      | ';' :: ';' :: rest => return ([first], ';' :: ';' :: rest)
      | ';' :: rest | '\n' :: rest => do
        let (others, rest) ← readList fuel rest
        return (first :: others, rest)
      | '&' :: rest => do
        let (others, rest) ← readList fuel rest
        return (.background first :: others, rest)
      | rest => if isClosed rest then return ([first], rest) else none

/-- Read commands joined by `&&` and `||`. -/
def readChain : (fuel : Nat) → List Char → Option (Command × List Char)
  | 0, _ => none
  | fuel + 1, text => do
    let (first, rest) ← readPipeline fuel text
    readJoined fuel first rest

/-- Read what is joined to a command. -/
def readJoined : (fuel : Nat) → Command → List Char → Option (Command × List Char)
  | 0, _, _ => none
  | fuel + 1, first, text =>
    match skipBlanks text with
    | '&' :: '&' :: rest => do
      let (second, rest) ← readPipeline fuel (skipLines rest.length rest)
      readJoined fuel (.both first second) rest
    | '|' :: '|' :: rest => do
      let (second, rest) ← readPipeline fuel (skipLines rest.length rest)
      readJoined fuel (.either first second) rest
    | rest => some (first, rest)

/-- Read a pipeline. -/
def readPipeline : (fuel : Nat) → List Char → Option (Command × List Char)
  | 0, _ => none
  | fuel + 1, text => do
    let text := skipBlanks text
    let negated := peekWord text == "!"
    let (stages, rest) ← readStages fuel (if negated then text.drop 1 else text)
    match negated, stages with
    | false, [one] => return (one, rest)
    | _, _ => return (.pipeline negated stages, rest)

/-- Read commands joined by `|`. -/
def readStages : (fuel : Nat) → List Char → Option (List Command × List Char)
  | 0, _ => none
  | fuel + 1, text => do
    let (first, rest) ← readCommand fuel text
    match skipBlanks rest with
    | '|' :: '|' :: rest => return ([first], '|' :: '|' :: rest)
    | '|' :: rest => do
      let (others, rest) ← readStages fuel (skipLines rest.length rest)
      return (first :: others, rest)
    | rest => return ([first], rest)

/-- Read a command. -/
def readCommand : (fuel : Nat) → List Char → Option (Command × List Char)
  | 0, _ => none
  | fuel + 1, text =>
    let text := skipBlanks text
    let word := peekWord text
    let after := text.drop word.length
    let compound : Option (Command × List Char) :=
      match word, text with
      | "if", _ => readConditional fuel after
      | "while", _ => readLoop fuel false after
      | "until", _ => readLoop fuel true after
      | "for", _ => readEach fuel after
      | "case", _ => readChoice fuel after
      | "\x7b", _ => do
        let (body, rest) ← readList fuel after
        if body.isEmpty then none else return (.group body, ← expectWord "\x7d" rest)
      | _, '(' :: rest => do
        let (body, rest) ← readList fuel rest
        if body.isEmpty then none else return (.subshell body, ← expectChar ')' rest)
      | _, _ => none
    let openers := ["if", "while", "until", "for", "case", "\x7b"]
    if openers.contains word || text.head? = some '(' then do
      let (body, rest) ← compound
      let (redirections, rest) ← readRedirections fuel rest
      return (if redirections.isEmpty then body else .redirected body redirections, rest)
    else if closingWords.contains word then none
    else
      match Text.isIdentifier word.toList, skipBlanks after with
      | true, '(' :: rest => do
        let rest ← expectChar ')' (skipBlanks rest)
        let (body, rest) ← readCommand fuel (skipLines rest.length rest)
        return (.define word body, rest)
      | _, _ => readSimple fuel [] [] [] text

/-- Read the rest of a condition after its first word. -/
def readConditional : (fuel : Nat) → List Char → Option (Command × List Char)
  | 0, _ => none
  | fuel + 1, text => do
    let (test, rest) ← readList fuel text
    let (body, rest) ← readList fuel (← expectWord "then" rest)
    if test.isEmpty || body.isEmpty then none
    match peekWord rest with
    | "elif" => do
      let (other, rest) ← readConditional fuel (rest.drop 4)
      return (.conditional test body [other], rest)
    | "else" => do
      let (otherwise, rest) ← readList fuel (rest.drop 4)
      if otherwise.isEmpty then none
      else return (.conditional test body otherwise, ← expectWord "fi" rest)
    | _ => return (.conditional test body [], ← expectWord "fi" rest)

/-- Read the body of a loop. -/
def readBody : (fuel : Nat) → List Char → Option (List Command × List Char)
  | 0, _ => none
  | fuel + 1, text => do
    let (body, rest) ← readList fuel (← expectWord "do" text)
    if body.isEmpty then none else return (body, ← expectWord "done" rest)

/-- Read the rest of a loop with a test after its first word. -/
def readLoop : (fuel : Nat) → (untilGood : Bool) → List Char → Option (Command × List Char)
  | 0, _, _ => none
  | fuel + 1, untilGood, text => do
    let (test, rest) ← readList fuel text
    let (body, rest) ← readBody fuel rest
    if test.isEmpty then none else return (.loop untilGood test body, rest)

/-- Read the rest of a loop over words after its first word. -/
def readEach : (fuel : Nat) → List Char → Option (Command × List Char)
  | 0, _ => none
  | fuel + 1, text => do
    let text := skipBlanks text
    let name := peekWord text
    let rest := text.drop name.length
    if !Text.isIdentifier name.toList then none
    match expectWord "in" rest with
    | some rest => do
      let (words, rest) ← readWords fuel rest
      let rest ← (expectChar ';' rest).or (expectChar '\n' rest)
      let (body, rest) ← readBody fuel rest
      return (.each name false words body, rest)
    | none => do
      let rest := (expectChar ';' (skipBlanks rest)).getD rest
      let (body, rest) ← readBody fuel rest
      return (.each name true [] body, rest)

/-- Read words up to the end of a command. -/
def readWords : (fuel : Nat) → List Char → Option (List Word × List Char)
  | 0, _ => none
  | fuel + 1, text =>
    match skipBlanks text with
    | [] => some ([], [])
    | c :: rest =>
      if endsWord c then some ([], c :: rest)
      else do
        let (first, rest) ← readParts fuel .word (c :: rest)
        let (others, rest) ← readWords fuel rest
        return (first :: others, rest)

/-- Read the rest of a choice after its first word. -/
def readChoice : (fuel : Nat) → List Char → Option (Command × List Char)
  | 0, _ => none
  | fuel + 1, text => do
    let (word, rest) ← readParts fuel .word (skipBlanks text)
    let (branches, rest) ← readBranches fuel (← expectWord "in" rest)
    return (.choose word branches, rest)

/-- Read the branches of a choice and the word that ends it. -/
def readBranches : (fuel : Nat) → List Char → Option (List Branch × List Char)
  | 0, _ => none
  | fuel + 1, text =>
    let text := skipLines text.length text
    if peekWord text = "esac" then some ([], text.drop 4)
    else do
      let (patterns, rest) ← readPatterns fuel ((expectChar '(' text).getD text)
      let (body, rest) ← readList fuel rest
      let branch : Branch := .mk patterns body
      match skipLines rest.length rest with
      | ';' :: ';' :: rest => do
        let (others, rest) ← readBranches fuel rest
        return (branch :: others, rest)
      | rest => return ([branch], ← expectWord "esac" rest)

/-- Read the patterns of a branch and the parenthesis after them. -/
def readPatterns : (fuel : Nat) → List Char → Option (List Word × List Char)
  | 0, _ => none
  | fuel + 1, text => do
    let (first, rest) ← readParts fuel .word (skipBlanks text)
    if first.isEmpty then none
    match skipBlanks rest with
    | '|' :: rest => do
      let (others, rest) ← readPatterns fuel rest
      return (first :: others, rest)
    | ')' :: rest => return ([first], rest)
    | _ => none

/-- Read the redirections after a command. -/
def readRedirections : (fuel : Nat) → List Char → Option (List Redirection × List Char)
  | 0, _ => none
  | fuel + 1, text =>
    let text := skipBlanks text
    match readSign text with
    | none => some ([], text)
    | some sign => do
      let (first, rest) ← readRedirection fuel sign
      let (others, rest) ← readRedirections fuel rest
      return (first :: others, rest)

/-- Read the word of a redirection. The text of a document stands after the end of the line, from
where it is taken away. -/
def readRedirection : (fuel : Nat) → Option Nat × String × List Char →
    Option (Redirection × List Char)
  | 0, _ => none
  | fuel + 1, (descriptor, sign, text) => do
    let (word, rest) ← readParts fuel .word (skipBlanks text)
    if word.isEmpty then none
    match sign with
    | "<<" | "<<-" => do
      let (delimiter, quoted) := plainText word
      let line := rest.takeWhile (· != '\n')
      let below := (rest.drop line.length).drop 1
      let (body, after) := takeDocument (sign = "<<-") delimiter below.length below
      let target ← if quoted then pure [.text body true]
        else (readParts fuel .document body).map (·.1)
      return (.mk (descriptor.getD 0) .document target, line ++ '\n' :: after)
    | "<" | "<>" => return (.mk (descriptor.getD 0) .read word, rest)
    | "<&" => return (.mk (descriptor.getD 0) .duplicate word, rest)
    | ">&" => return (.mk (descriptor.getD 1) .duplicate word, rest)
    | ">>" => return (.mk (descriptor.getD 1) .append word, rest)
    | ">|" => return (.mk (descriptor.getD 1) .overwrite word, rest)
    | _ => return (.mk (descriptor.getD 1) .write word, rest)

/-- Read a simple command; what has been read of it is given, last first. -/
def readSimple : (fuel : Nat) → List Assignment → List Word → List Redirection → List Char →
    Option (Command × List Char)
  | 0, _, _, _, _ => none
  | fuel + 1, assignments, words, redirections, text =>
    let text := skipBlanks text
    let isOver := match text with
      | [] => true
      | c :: _ => endsWord c
    match readSign text with
    | some sign => do
      let (redirection, rest) ← readRedirection fuel sign
      readSimple fuel assignments words (redirection :: redirections) rest
    | none =>
      if isOver then
        if assignments.isEmpty && words.isEmpty && redirections.isEmpty then none
        else
          some (.simple assignments.reverse words.reverse redirections.reverse, text)
      else do
        let (word, rest) ← readParts fuel .word text
        match words, assignment? word with
        | [], some assignment => readSimple fuel (assignment :: assignments) [] redirections rest
        | _, _ => readSimple fuel assignments (word :: words) redirections rest

end

/-- How many steps reading takes at most for each character. -/
def stepsPerChar : Nat := 24

/-- Read the commands of a line; `fuel` bounds their number. -/
def readCommands : (fuel : Nat) → List Char → Option (List Command × List Char)
  | 0, _ => none
  | fuel + 1, text => do
    let (first, rest) ← readChain ((text.length + 1) * stepsPerChar) text
    let goOn (first : Command) (rest : List Char) : Option (List Command × List Char) :=
      match skipBlanks rest with
      | [] => some ([first], [])
      | '\n' :: rest => some ([first], rest)
      | rest => (readCommands fuel rest).map fun (others, rest) => (first :: others, rest)
    match skipBlanks rest with
    | [] => some ([first], [])
    | '\n' :: rest => some ([first], rest)
    | ';' :: rest => goOn first rest
    | '&' :: rest => goOn (.background first) rest
    | _ => none

/-- Read the next line of a script that holds commands: none is left if only blanks are. -/
def readLine (text : List Char) : Option (List Command × List Char) :=
  let text := skipLines text.length text
  if text.isEmpty then some ([], []) else readCommands text.length text

end CommandShell.Programs.Script
