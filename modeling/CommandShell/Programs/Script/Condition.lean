import CommandShell.Programs.Printf
import CommandShell.Programs.Utility.Condition

/-!
# Conditions in Scripts

How the interpreter itself decides conditions. They are read from left to right; an operator that
stands where an operand is wanted is an operand. What is left after a condition has been read may
be no more than one word.
-/

namespace CommandShell.Programs.Script

/-- Why a condition cannot be decided. -/
inductive ConditionFault where
  /-- There is no bracket at the end. -/
  | unclosed
  /-- A parenthesis is not closed. -/
  | unbalanced
  /-- An operator has no operand. -/
  | lonely (operator : String)
  /-- A word stands before another one and is no operator. -/
  | unexpected (word : String)
  /-- A word is no number. -/
  | notNumber (word : String)
  deriving DecidableEq, Repr

/-- What is said about a condition that cannot be decided. -/
def ConditionFault.message : ConditionFault → String
  | .unclosed => "missing ]"
  | .unbalanced => "closing paren expected"
  | .lonely operator => s!"{operator}: argument expected"
  | .unexpected "" => "unexpected operator"
  | .unexpected word => s!"{word}: unexpected operator"
  | .notNumber word => s!"Illegal number: {word}"

/-- What a word of a condition is. -/
inductive ConditionWord where
  /-- A word that is no operator. -/
  | operand
  /-- An operator with one operand. -/
  | unary
  /-- An operator with two operands. -/
  | binary
  /-- The sign of negation, of a conjunction or of a disjunction, or a parenthesis. -/
  | sign (sign : String)
  /-- There is no word. -/
  | missing
  deriving DecidableEq, Repr

namespace Condition

/-- The number that a word is, as far as 64 bits hold it. -/
def number (word : String) : Except ConditionFault Int :=
  match Setting.number? word with
  | some n => if (clamp n).2 then .ok n else .error (.notNumber word)
  | none => .error (.notNumber word)

/-- Decide what is asked about a word or a file. -/
def unary (setting : Setting) (operator word : String) : Except ConditionFault Bool := do
  if operator = "-t" then
    let _ ← number word
  return setting.unary operator word

/-- Decide how two words or files compare. -/
def binary (setting : Setting) (operator left right : String) : Except ConditionFault Bool := do
  if ["-eq", "-ne", "-lt", "-le", "-gt", "-ge"].contains operator then
    let _ ← number left
    let _ ← number right
  return (setting.binary operator left right).getD false

/-- What the first of some words is. -/
def kind (setting : Setting) (words : List String) : ConditionWord :=
  match words with
  | [] => .missing
  | word :: rest =>
    if Setting.unaryOperators.contains word then
      match rest with
      | [] => .operand
      | [_] => .unary
      | next :: _ => if setting.binaryOperators.contains next then .operand else .unary
    else if setting.binaryOperators.contains word then .binary
    else if word = "(" then if rest.isEmpty then .operand else .sign word
    else if ["!", "-a", "-o", ")"].contains word then .sign word
    else .operand

mutual

/-- Decide conditions joined by `-o`: what is left begins with the last word that has been used.
`fuel` bounds the number of steps. -/
def readAny (setting : Setting) :
    (fuel : Nat) → List String → Except ConditionFault (Bool × List String)
  | 0, words => .ok (false, words)
  | fuel + 1, words => do
    let (first, rest) ← readAll setting fuel words
    if kind setting rest.tail = .sign "-o" then
      let (others, rest) ← readAny setting fuel (rest.drop 2)
      return (first || others, rest)
    else return (first, rest)

/-- Decide conditions joined by `-a`. -/
def readAll (setting : Setting) :
    (fuel : Nat) → List String → Except ConditionFault (Bool × List String)
  | 0, words => .ok (false, words)
  | fuel + 1, words => do
    let (first, rest) ← readOne setting fuel words
    if kind setting rest.tail = .sign "-a" then
      let (others, rest) ← readAll setting fuel (rest.drop 2)
      return (first && others, rest)
    else return (first, rest)

/-- Decide a single condition. -/
def readOne (setting : Setting) :
    (fuel : Nat) → List String → Except ConditionFault (Bool × List String)
  | 0, words => .ok (false, words)
  | fuel + 1, words =>
    match kind setting words, words with
    | .missing, _ | _, [] => .ok (false, [])
    | .sign "!", _ :: rest => do
      let (truth, left) ← readOne setting fuel rest
      return (!truth, if rest.isEmpty then words else left)
    | .sign "(", _ :: rest => do
      if kind setting rest = .sign ")" then return (false, rest)
      let (truth, left) ← readAny setting fuel rest
      if kind setting left.tail = .sign ")" then return (truth, left.tail)
      else .error .unbalanced
    | .unary, operator :: rest =>
      match rest with
      | [] => .error (.lonely operator)
      | word :: _ => do return (← unary setting operator word, rest)
    | _, left :: rest =>
      match kind setting rest, rest with
      | .binary, operator :: rest =>
        match rest with
        | [] => .error (.lonely operator)
        | right :: _ => do return (← binary setting operator left right, rest)
      | _, _ => .ok (!left.isEmpty, words)

end

/-- Decide a condition that has been stripped of what only its number of words gives a meaning. -/
def decideWords (setting : Setting) (words : List String) : Except ConditionFault Bool := do
  let (truth, rest) ← readAny setting (4 * words.length + 4) words
  match rest with
  | word :: _ :: _ => .error (.unexpected word)
  | _ => return truth

/-- Decide a condition; with three or four words, negation and parentheses around all of them come
first, and two negations are like one. -/
def decide (setting : Setting) (words : List String) : Except ConditionFault Bool :=
  let negated (rest : Except ConditionFault Bool) : Except ConditionFault Bool := rest.map (!·)
  match words with
  | [] => .ok false
  | [first, second, third] =>
    if setting.binaryOperators.contains second then binary setting second first third
    else if first = "(" && third = ")" then decideWords setting [second]
    else if first = "!" then negated (decideWords setting [second, third])
    else decideWords setting words
  | [first, second, third, fourth] =>
    if first = "(" && fourth = ")" then decideWords setting [second, third]
    else if first = "!" then
      negated
        (if setting.binaryOperators.contains third then binary setting third second fourth
        else if second = "(" && fourth = ")" then decideWords setting [third]
        else if second = "!" then decideWords setting [third, fourth]
        else decideWords setting [second, third, fourth])
    else decideWords setting words
  | _ => decideWords setting words

/-- Decide a condition under one of its two names, one of which wants a bracket at the end. -/
def decideCalled (files : Files) (name : String) (args : List String) :
    Except ConditionFault Bool :=
  if name = "[" then
    if args.getLast? = some "]" then decide ⟨files, false⟩ args.dropLast else .error .unclosed
  else decide ⟨files, false⟩ args

end Condition

end CommandShell.Programs.Script
