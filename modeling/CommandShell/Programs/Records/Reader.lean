import CommandShell.Programs.Records.Lexer

/-!
# Reading Programs on Records

How the items of a program become its rules and functions. All readers take items and give what
they have read together with the items that are left; they give nothing if there is a mistake. The
bound on their steps is a multiple of the number of items, which is more than they need.
-/

namespace CommandShell.Programs.Records

/-- Pass over the ends of lines. -/
def skipNewlines : List Token → List Token
  | .newline :: rest => skipNewlines rest
  | items => items

/-- Pass over the ends of lines and of statements. -/
def skipEnds : List Token → List Token
  | .newline :: rest | .sign ";" :: rest => skipEnds rest
  | items => items

/-- The items after a sign that must stand here. -/
def expectSign (sign : String) : List Token → Option (List Token)
  | .sign other :: rest => if sign = other then some rest else none
  | _ => none

/-- The operators with two operands that are read from the left, by how tightly they bind. -/
def sumSigns : List String := ["+", "-"]

/-- The operators of products. -/
def productSigns : List String := ["*", "/", "%"]

/-- The operators of comparisons. -/
def comparisonSigns : List String := ["<", "<=", "==", "!=", ">", ">="]

/-- The operator that an assignment applies first, if the sign is one of an assignment. -/
def assignment? (sign : String) : Option (Option String) :=
  if sign = "=" then some none
  else if ["+=", "-=", "*=", "/=", "%=", "^="].contains sign then
    some (some (sign.dropEnd 1).toString)
  else none

/-- An operand that is joined to the one before can begin with the item. -/
def beginsOperand : Token → Bool
  | .number _ | .text _ | .name _ | .caller _ | .builtin _ => true
  | .sign sign => ["$", "(", "!", "++", "--"].contains sign
  | _ => false

/-- Where an expression is read. -/
structure Surroundings where
  /-- The sign for "greater" compares. -/
  greater : Bool
  /-- The word for membership is an operator. -/
  membership : Bool

mutual

/-- Read an expression. -/
def readTerm : (fuel : Nat) → Surroundings → List Token → Option (Term × List Token)
  | 0, _, _ => none
  | fuel + 1, around, items => do
    let (left, rest) ← readChoice fuel around items
    match left, rest with
    | .place target, .sign sign :: more =>
      match assignment? sign with
      | some operator => do
        let (value, rest) ← readTerm fuel around (skipNewlines more)
        return (.assign target operator value, rest)
      | none => return (left, rest)
    | _, _ => return (left, rest)

/-- Read an expression that may be a condition. -/
def readChoice : (fuel : Nat) → Surroundings → List Token → Option (Term × List Token)
  | 0, _, _ => none
  | fuel + 1, around, items => do
    let (test, rest) ← readEither fuel around items
    match rest with
    | .sign "?" :: rest => do
      let (left, rest) ← readTerm fuel around (skipNewlines rest)
      let rest ← expectSign ":" (skipNewlines rest)
      let (right, rest) ← readTerm fuel around (skipNewlines rest)
      return (.choose test left right, rest)
    | _ => return (test, rest)

/-- Read expressions joined by `||`. -/
def readEither : (fuel : Nat) → Surroundings → List Token → Option (Term × List Token)
  | 0, _, _ => none
  | fuel + 1, around, items => do
    let (left, rest) ← readBoth fuel around items
    match rest with
    | .sign "||" :: rest => do
      let (right, rest) ← readEither fuel around (skipNewlines rest)
      return (.binary "||" left right, rest)
    | _ => return (left, rest)

/-- Read expressions joined by `&&`. -/
def readBoth : (fuel : Nat) → Surroundings → List Token → Option (Term × List Token)
  | 0, _, _ => none
  | fuel + 1, around, items => do
    let (left, rest) ← readMember fuel around items
    match rest with
    | .sign "&&" :: rest => do
      let (right, rest) ← readBoth fuel around (skipNewlines rest)
      return (.binary "&&" left right, rest)
    | _ => return (left, rest)

/-- Read an expression that may tell whether an array has an element. -/
def readMember : (fuel : Nat) → Surroundings → List Token → Option (Term × List Token)
  | 0, _, _ => none
  | fuel + 1, around, items => do
    let (left, rest) ← readMatch fuel around items
    match around.membership, rest with
    | true, .keyword "in" :: .name array :: rest => return (.member array [left], rest)
    | _, _ => return (left, rest)

/-- Read an expression that may be compared with a regular expression. -/
def readMatch : (fuel : Nat) → Surroundings → List Token → Option (Term × List Token)
  | 0, _, _ => none
  | fuel + 1, around, items => do
    let (left, rest) ← readComparison fuel around items
    readMatches fuel around left rest

/-- Read the regular expressions that an expression is compared with. -/
def readMatches : (fuel : Nat) → Surroundings → Term → List Token → Option (Term × List Token)
  | 0, _, _, _ => none
  | fuel + 1, around, left, items =>
    match items with
    | .sign "~" :: rest => do
      let (right, rest) ← readComparison fuel around rest
      readMatches fuel around (.fits false left right) rest
    | .sign "!~" :: rest => do
      let (right, rest) ← readComparison fuel around rest
      readMatches fuel around (.fits true left right) rest
    | _ => some (left, items)

/-- Read an expression that may be a comparison. -/
def readComparison : (fuel : Nat) → Surroundings → List Token → Option (Term × List Token)
  | 0, _, _ => none
  | fuel + 1, around, items => do
    let (left, rest) ← readJoined fuel around items
    match rest with
    | .sign sign :: more =>
      if comparisonSigns.contains sign && (sign != ">" || around.greater) then do
        let (right, rest) ← readJoined fuel around more
        return (.binary sign left right, rest)
      else return (left, rest)
    | _ => return (left, rest)

/-- Read texts one after the other, and lines that a command writes. -/
def readJoined : (fuel : Nat) → Surroundings → List Token → Option (Term × List Token)
  | 0, _, _ => none
  | fuel + 1, around, items => do
    let (left, rest) ← readSum fuel around items
    readFurther fuel around left rest

/-- Read the texts that are joined to one. -/
def readFurther : (fuel : Nat) → Surroundings → Term → List Token → Option (Term × List Token)
  | 0, _, _, _ => none
  | fuel + 1, around, left, items =>
    match items with
    | .sign "|" :: .keyword "getline" :: rest => do
      let (target, rest) ← readTarget? fuel around rest
      readFurther fuel around (.readLine target (some (true, left))) rest
    | item :: _ =>
      if beginsOperand item then do
        let (right, rest) ← readSum fuel around items
        readFurther fuel around (.join left right) rest
      else some (left, items)
    | [] => some (left, [])

/-- Read a sum. -/
def readSum : (fuel : Nat) → Surroundings → List Token → Option (Term × List Token)
  | 0, _, _ => none
  | fuel + 1, around, items => do
    let (left, rest) ← readProduct fuel around items
    readTerms fuel around sumSigns left rest

/-- Read a product. -/
def readProduct : (fuel : Nat) → Surroundings → List Token → Option (Term × List Token)
  | 0, _, _ => none
  | fuel + 1, around, items => do
    let (left, rest) ← readUnary fuel around items
    readTerms fuel around productSigns left rest

/-- Read further operands of a sum or a product. -/
def readTerms : (fuel : Nat) → Surroundings → List String → Term → List Token →
    Option (Term × List Token)
  | 0, _, _, _, _ => none
  | fuel + 1, around, signs, left, items =>
    match items with
    | .sign sign :: rest =>
      if !signs.contains sign then some (left, items)
      else do
        let (right, rest) ←
          if signs = sumSigns then readProduct fuel around rest else readUnary fuel around rest
        readTerms fuel around signs (.binary sign left right) rest
    | _ => some (left, items)

/-- Read an operand with a sign before it. -/
def readUnary : (fuel : Nat) → Surroundings → List Token → Option (Term × List Token)
  | 0, _, _ => none
  | fuel + 1, around, items =>
    match items with
    | .sign sign :: rest =>
      if ["!", "-", "+"].contains sign then do
        let (operand, rest) ← readUnary fuel around rest
        return (.unary sign operand, rest)
      else readPower fuel around items
    | _ => readPower fuel around items

/-- Read a power. -/
def readPower : (fuel : Nat) → Surroundings → List Token → Option (Term × List Token)
  | 0, _, _ => none
  | fuel + 1, around, items => do
    let (base, rest) ← readStepped fuel around items
    match rest with
    | .sign "^" :: rest => do
      let (exponent, rest) ← readUnary fuel around rest
      return (.binary "^" base exponent, rest)
    | _ => return (base, rest)

/-- Read an operand that may become greater or smaller by one. -/
def readStepped : (fuel : Nat) → Surroundings → List Token → Option (Term × List Token)
  | 0, _, _ => none
  | fuel + 1, around, items =>
    match items with
    | .sign "++" :: rest => do
      let (operand, rest) ← readPrimary fuel around rest
      match operand with
      | .place target => return (.step true 1 target, rest)
      | _ => none
    | .sign "--" :: rest => do
      let (operand, rest) ← readPrimary fuel around rest
      match operand with
      | .place target => return (.step true (-1) target, rest)
      | _ => none
    | _ => do
      let (operand, rest) ← readPrimary fuel around items
      match operand, rest with
      | .place target, .sign "++" :: rest => return (.step false 1 target, rest)
      | .place target, .sign "--" :: rest => return (.step false (-1) target, rest)
      | _, _ => return (operand, rest)

/-- Read an operand. -/
def readPrimary : (fuel : Nat) → Surroundings → List Token → Option (Term × List Token)
  | 0, _, _ => none
  | fuel + 1, around, items =>
    let free : Surroundings := ⟨true, true⟩
    match items with
    | .number n :: rest => some (.number n, rest)
    | .text bytes :: rest => some (.text bytes, rest)
    | .regular regular :: rest => some (.regular regular, rest)
    | .sign "$" :: .sign "++" :: rest => do
      let (operand, rest) ← readPrimary fuel around rest
      match operand with
      | .place target => return (.place (.field (.step true 1 target)), rest)
      | _ => none
    | .sign "$" :: .sign "-" :: rest => do
      let (operand, rest) ← readPrimary fuel around rest
      return (.place (.field (.unary "-" operand)), rest)
    | .sign "$" :: rest => do
      let (operand, rest) ← readPrimary fuel around rest
      return (.place (.field operand), rest)
    | .sign "(" :: rest => do
      let (values, rest) ← readValues fuel free (skipNewlines rest)
      let rest ← expectSign ")" (skipNewlines rest)
      match values, rest with
      | [value], _ => return (.enclosed value, rest)
      | _, .keyword "in" :: .name array :: rest => return (.member array values, rest)
      | _, _ => none
    | .builtin name :: .sign "(" :: rest => do
      let (values, rest) ← readValues fuel free (skipNewlines rest)
      return (.builtin name values, ← expectSign ")" (skipNewlines rest))
    | .builtin name :: rest => if name = "length" then some (.builtin name [], rest) else none
    | .caller name :: .sign "(" :: rest => do
      let (values, rest) ← readValues fuel free (skipNewlines rest)
      return (.call name values, ← expectSign ")" (skipNewlines rest))
    | .name name :: .sign "[" :: rest => do
      let (keys, rest) ← readValues fuel free rest
      return (.place (.element name keys), ← expectSign "]" rest)
    | .name name :: rest => some (.place (.variable name), rest)
    | .keyword "getline" :: rest => do
      let (target, rest) ← readTarget? fuel around rest
      match rest with
      | .sign "<" :: rest => do
        let (path, rest) ← readPrimary fuel around rest
        return (.readLine target (some (false, path)), rest)
      | _ => return (.readLine target none, rest)
    | _ => none

/-- Read what a line is read into, if that is given. -/
def readTarget? : (fuel : Nat) → Surroundings → List Token → Option (Option Target × List Token)
  | 0, _, _ => none
  | fuel + 1, around, items =>
    match items with
    | .name _ :: _ | .sign "$" :: _ => do
      let (operand, rest) ← readPrimary fuel around items
      match operand with
      | .place target => return (some target, rest)
      | _ => none
    | _ => some (none, items)

/-- Read expressions with commas between them; there may be none. -/
def readValues : (fuel : Nat) → Surroundings → List Token → Option (List Term × List Token)
  | 0, _, _ => none
  | fuel + 1, around, items =>
    match items with
    | [] | .newline :: _ | .sign ")" :: _ | .sign ";" :: _ | .sign "\x7d" :: _ | .sign "|" :: _
    | .sign ">" :: _ | .sign ">>" :: _ => some ([], items)
    | _ => do
      let (first, rest) ← readTerm fuel around items
      match rest with
      | .sign "," :: rest => do
        let (others, rest) ← readValues fuel around (skipNewlines rest)
        return (first :: others, rest)
      | _ => return ([first], rest)

end

/-- How many steps reading takes at most for each item. -/
def stepsPerItem : Nat := 24

/-- Read an expression from items. -/
def readWhole (around : Surroundings) (items : List Token) : Option (Term × List Token) :=
  readTerm ((items.length + 1) * stepsPerItem) around items

/-- Read the values that are printed, in parentheses or not. -/
def readPrinted (items : List Token) : Option (List Term × List Token) :=
  let fuel := (items.length + 1) * stepsPerItem
  let bare := readValues fuel ⟨false, true⟩ items
  let isOver : List Token → Bool
    | [] | .newline :: _ | .sign ";" :: _ | .sign "\x7d" :: _ | .sign ">" :: _ | .sign ">>" :: _
    | .sign "|" :: _ => true
    | _ => false
  match items with
  | .sign "(" :: rest =>
    let enclosed := do
      let (values, rest) ← readValues fuel ⟨true, true⟩ (skipNewlines rest)
      let rest ← expectSign ")" (skipNewlines rest)
      if isOver rest then return (values, rest) else none
    enclosed.or bare
  | _ => bare

/-- Read where output goes. -/
def readOutlet (items : List Token) : Option (Outlet × List Token) :=
  let path (items : List Token) : Option (Term × List Token) := readWhole ⟨true, true⟩ items
  match items with
  | .sign ">" :: rest => (path rest).map fun (term, rest) => (.file term, rest)
  | .sign ">>" :: rest => (path rest).map fun (term, rest) => (.append term, rest)
  | .sign "|" :: rest => (path rest).map fun (term, rest) => (.command term, rest)
  | _ => some (.output, items)

/-- The items after the end of a statement, which may be left out before a closing brace. -/
def expectEnd : List Token → Option (List Token)
  | [] => some []
  | .newline :: rest | .sign ";" :: rest => some rest
  | items@(.sign "\x7d" :: _) => some items
  | _ => none

/-- Read a statement without parts that are statements. -/
def readSimple (items : List Token) : Option (Statement × List Token) :=
  let free : Surroundings := ⟨true, true⟩
  let optional (rest : List Token) : Option (Option Term × List Token) :=
    if (expectEnd rest).isSome then some (none, rest)
    else (readWhole free rest).map fun (term, rest) => (some term, rest)
  match items with
  | .keyword "print" :: rest => do
    let (values, rest) ← readPrinted rest
    let (outlet, rest) ← readOutlet rest
    return (.print values outlet, rest)
  | .keyword "printf" :: rest => do
    let (values, rest) ← readPrinted rest
    let (outlet, rest) ← readOutlet rest
    if values.isEmpty then none else return (.printf values outlet, rest)
  | .keyword "next" :: rest => some (.next, rest)
  | .keyword "break" :: rest => some (.leaveLoop, rest)
  | .keyword "continue" :: rest => some (.continueLoop, rest)
  | .keyword "exit" :: rest => (optional rest).map fun (code, rest) => (.exit code, rest)
  | .keyword "return" :: rest => (optional rest).map fun (value, rest) => (.leave value, rest)
  | .keyword "delete" :: .name array :: .sign "[" :: rest => do
    let (keys, rest) ← readValues ((rest.length + 1) * stepsPerItem) free rest
    return (.delete array keys, ← expectSign "]" rest)
  | .keyword "delete" :: .name array :: rest => some (.delete array [], rest)
  | _ => (readWhole free items).map fun (term, rest) => (.evaluate term, rest)

/-- Read a statement that may be missing, up to a sign. -/
def readPart (items : List Token) : Option (Statement × List Token) :=
  match items with
  | .sign ";" :: _ | .sign ")" :: _ => some (.nothing, items)
  | _ => readSimple items

mutual

/-- Read a statement with its end. -/
def readStatement : (fuel : Nat) → List Token → Option (Statement × List Token)
  | 0, _ => none
  | fuel + 1, items =>
    let free : Surroundings := ⟨true, true⟩
    let readTest (rest : List Token) : Option (Term × List Token) := do
      let (test, rest) ← readWhole free (← expectSign "(" rest)
      return (test, ← expectSign ")" (skipNewlines rest))
    match items with
    | .sign "\x7b" :: rest => do
      let (body, rest) ← readBlock fuel rest
      return (.block body, rest)
    | .sign ";" :: rest => some (.nothing, rest)
    | .keyword "if" :: rest => do
      let (test, rest) ← readTest rest
      let (body, rest) ← readStatement fuel (skipNewlines rest)
      match skipEnds rest with
      | .keyword "else" :: rest => do
        let (otherwise, rest) ← readStatement fuel (skipNewlines rest)
        return (.branch test body otherwise, rest)
      | _ => return (.branch test body .nothing, rest)
    | .keyword "while" :: rest => do
      let (test, rest) ← readTest rest
      match rest with
      | .sign ";" :: rest => return (.loop false test .nothing .nothing, rest)
      | _ => do
        let (body, rest) ← readStatement fuel (skipNewlines rest)
        return (.loop false test .nothing body, rest)
    | .keyword "do" :: rest => do
      let (body, rest) ← readStatement fuel (skipNewlines rest)
      match skipEnds rest with
      | .keyword "while" :: rest => do
        let (test, rest) ← readTest rest
        return (.loop true test .nothing body, ← expectEnd rest)
      | _ => none
    | .keyword "for" :: .sign "(" :: .name name :: .keyword "in" :: .name array :: .sign ")" ::
        rest => do
      let (body, rest) ← readStatement fuel (skipNewlines rest)
      return (.each name array body, rest)
    | .keyword "for" :: .sign "(" :: rest => do
      let (first, rest) ← readPart rest
      let rest := skipNewlines (← expectSign ";" rest)
      let (test, rest) ← match rest with
        | .sign ";" :: _ => pure (.number 1, rest)
        | _ => readWhole free rest
      let rest := skipNewlines (← expectSign ";" rest)
      let (step, rest) ← readPart rest
      let rest ← expectSign ")" rest
      let (body, rest) ← match rest with
        | .sign ";" :: rest => pure (.nothing, rest)
        | _ => readStatement fuel (skipNewlines rest)
      return (.block [first, .loop false test step body], rest)
    | _ => do
      let (statement, rest) ← readSimple items
      return (statement, ← expectEnd rest)

/-- Read statements up to a closing brace. -/
def readBlock : (fuel : Nat) → List Token → Option (List Statement × List Token)
  | 0, _ => none
  | fuel + 1, items =>
    match skipEnds items with
    | .sign "\x7d" :: rest => some ([], rest)
    | items => do
      let (first, rest) ← readStatement fuel items
      let (others, rest) ← readBlock fuel rest
      return (first :: others, rest)

end

/-- Read the names in the parentheses of a function. -/
def readNames : List Token → Option (List String × List Token)
  | .sign ")" :: rest => some ([], rest)
  | .name name :: .sign "," :: rest =>
    (readNames (skipNewlines rest)).map fun (names, rest) => (name :: names, rest)
  | .name name :: .sign ")" :: rest => some ([name], rest)
  | _ => none
termination_by items => items.length
decreasing_by
  simp only [List.length_cons]
  have : ∀ l : List Token, (skipNewlines l).length ≤ l.length := fun l => by
    fun_induction skipNewlines l <;> simp_all <;> omega
  have := this rest
  omega

/-- Read the pattern of a rule. -/
def readSelector (items : List Token) : Option (Selector × List Token) :=
  match items with
  | .keyword "BEGIN" :: rest => some (.atBegin, rest)
  | .keyword "END" :: rest => some (.atEnd, rest)
  | .sign "\x7b" :: _ => some (.all, items)
  | _ => do
    let (first, rest) ← readWhole ⟨true, true⟩ items
    match rest with
    | .sign "," :: rest => do
      let (last, rest) ← readWhole ⟨true, true⟩ (skipNewlines rest)
      return (.between first last, rest)
    | _ => return (.when first, rest)

/-- Read rules and functions; `fuel` bounds their number. -/
def readParts : (fuel : Nat) → Source → List Token → Option Source
  | 0, _, _ => none
  | fuel + 1, source, items =>
    let statementFuel := items.length + 1
    match skipEnds items with
    | [] => some ⟨source.rules.reverse, source.functions⟩
    | .keyword "function" :: .caller name :: .sign "(" :: rest
    | .keyword "function" :: .name name :: .sign "(" :: rest => do
      let (parameters, rest) ← readNames rest
      let rest ← expectSign "\x7b" (skipNewlines rest)
      let (body, rest) ← readBlock statementFuel rest
      readParts fuel
        { source with functions := ⟨name, parameters, .block body⟩ :: source.functions } rest
    | items => do
      let (selector, rest) ← readSelector items
      match rest with
      | .sign "\x7b" :: rest => do
        let (body, rest) ← readBlock statementFuel rest
        readParts fuel { source with rules := ⟨selector, some (.block body)⟩ :: source.rules } rest
      | [] | .newline :: _ | .sign ";" :: _ =>
        readParts fuel { source with rules := ⟨selector, none⟩ :: source.rules } rest
      | _ => none

/-- Read a program. -/
def readSource (text : String) : Option Source := do
  let items ← tokens (text.length + 1) none text.toList
  readParts (items.length + 2) ⟨[], []⟩ items

end CommandShell.Programs.Records
