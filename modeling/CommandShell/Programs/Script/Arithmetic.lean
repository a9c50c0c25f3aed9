import CommandShell.Text.Identifier

/-!
# Arithmetic in Scripts

Expressions on integers of 64 bits: the operators of comparison, logic, bits and sums with their
usual precedence, conditions with `?` and `:`, and assignments to variables. What is not decided
by a condition is not evaluated.
-/

namespace CommandShell.Programs.Script

/-- An arithmetic expression. -/
inductive Arith where
  /-- A number. -/
  | number (n : Int)
  /-- The value of a variable. -/
  | variable (name : String)
  /-- An operator with one operand. -/
  | unary (operator : String) (operand : Arith)
  /-- An operator with two operands. -/
  | binary (operator : String) (left right : Arith)
  /-- One of two expressions, as a third one tells. -/
  | choose (test left right : Arith)
  /-- A variable gets a value, which an operator may make of its old one. -/
  | assign (name : String) (operator : Option String) (value : Arith)
  deriving Repr

namespace Arith

/-- A lexical item of an expression. -/
inductive Token where
  /-- A number. -/
  | number (n : Int)
  /-- The name of a variable. -/
  | name (name : String)
  /-- An operator or a parenthesis. -/
  | sign (sign : String)
  deriving DecidableEq, Repr

/-- Why an expression has no value. -/
inductive Fault where
  /-- Something is missing in the expression. -/
  | expecting (what : String)
  /-- A number would have to be divided by zero. -/
  | divisionByZero
  /-- The value of a variable is no number. -/
  | notNumber (text : String)
  deriving DecidableEq, Repr

/-- What is said about a fault in an expression. -/
def Fault.message (expression : String) : Fault → String
  | .expecting what => s!"arithmetic expression: expecting {what}: \"{expression}\""
  | .divisionByZero => s!"arithmetic expression: division by zero: \"{expression}\""
  | .notNumber text => s!"Illegal number: {text}"

/-- A number as it fits in 64 bits. -/
def wrap (n : Int) : Int := n.bmod (Nat.pow 2 64)

/-- The value of a digit up to a base. -/
def digit? (base : Nat) (c : Char) : Option Nat :=
  let n :=
    if c.isDigit then c.toNat - '0'.toNat
    else if 'a' ≤ c && c ≤ 'z' then c.toNat - 'a'.toNat + 10
    else if 'A' ≤ c && c ≤ 'Z' then c.toNat - 'A'.toNat + 10
    else base
  if n < base then some n else none

/-- The number that digits of a base at the beginning of a text are, and what is left. -/
def leadingIn (base : Nat) (text : List Char) : Nat × List Char :=
  let digits := text.takeWhile fun c => (digit? base c).isSome
  let values := digits.filterMap (digit? base)
  (values.foldl (fun n digit => n * base + digit) 0, text.drop digits.length)

/-- The number without a sign that a text begins with, and what is left: it is hexadecimal after
`0x`, octal after `0`. -/
def leading (text : List Char) : Nat × List Char :=
  match text with
  | '0' :: x :: c :: rest =>
    if (x = 'x' || x = 'X') && (digit? 16 c).isSome then leadingIn 16 (c :: rest)
    else leadingIn 8 text
  | '0' :: _ => leadingIn 8 text
  | _ => leadingIn 10 text

/-- The largest number of 64 bits. -/
def largest : Int := Nat.pow 2 63 - 1

/-- The number that a text is, with blanks around it and a sign. -/
def integer? (text : List Char) : Option Int :=
  let isBlank (c : Char) : Bool := c = ' ' || ('\t' ≤ c && c ≤ '\r')
  let text := text.dropWhile isBlank
  let digits := match text with
    | '-' :: digits | '+' :: digits => digits
    | _ => text
  let (size, rest) := leading digits
  let n : Int := if text.head? = some '-' then -size else size
  let isNumber := digits.head?.any Char.isDigit && rest.all isBlank
  if text.isEmpty then some 0
  else if isNumber && n ≤ largest && -largest ≤ n + 1 then some n
  else none

/-- The operators, longer ones first. -/
def signs : List String :=
  ["<<=", ">>=", "<<", ">>", "<=", ">=", "==", "!=", "&&", "||", "+=", "-=", "*=", "/=", "%=",
    "&=", "|=", "^=", "+", "-", "*", "/", "%", "<", ">", "!", "~", "&", "|", "^", "?", ":", "=",
    "(", ")"]

/-- Cut an expression into its items; `fuel` bounds their number. A character that means nothing
is an item as well. -/
def tokens : (fuel : Nat) → List Char → List Token
  | _, [] | 0, _ => []
  | fuel + 1, c :: rest =>
    if c = ' ' || c = '\t' || c = '\n' then tokens fuel rest
    else if c.isDigit then
      let (n, rest) := leading (c :: rest)
      .number (min n largest) :: tokens fuel rest
    else if Text.isNameStart c then
      let name := (c :: rest).takeWhile Text.isNameChar
      .name (String.ofList name) :: tokens fuel (rest.drop (name.length - 1))
    else
      match signs.find? fun sign => sign.toList.isPrefixOf (c :: rest) with
      | some sign => .sign sign :: tokens fuel ((c :: rest).drop sign.length)
      | none => .sign (String.singleton c) :: tokens fuel rest

/-- The operators with two operands, by how tightly they bind, the loosest first. -/
def levels : List (List String) :=
  [["||"], ["&&"], ["|"], ["^"], ["&"], ["==", "!="], ["<", "<=", ">", ">="], ["<<", ">>"],
    ["+", "-"], ["*", "/", "%"]]

/-- The operator that an assignment applies first, if the sign is one of an assignment. -/
def assignment? (sign : String) : Option (Option String) :=
  if sign = "=" then some none
  else if sign.endsWith "=" && (!(["==", "!=", "<=", ">="].contains sign)) then
    some (some (sign.dropEnd 1).toString)
  else none

/-- Something that has a value is missing. -/
def primary : Fault := .expecting "primary"

mutual

/-- Read an expression. -/
def read : (fuel : Nat) → List Token → Except Fault (Arith × List Token)
  | 0, _ => .error primary
  | fuel + 1, tokens =>
    match tokens with
    | .name name :: .sign sign :: rest =>
      match assignment? sign with
      | some operator => do
        let (value, rest) ← read fuel rest
        return (.assign name operator value, rest)
      | none => readChoice fuel tokens
    | _ => readChoice fuel tokens

/-- Read an expression that may be a condition. -/
def readChoice : (fuel : Nat) → List Token → Except Fault (Arith × List Token)
  | 0, _ => .error primary
  | fuel + 1, tokens => do
    let (test, rest) ← readLevel fuel levels tokens
    match rest with
    | .sign "?" :: rest => do
      let (left, rest) ← read fuel rest
      match rest with
      | .sign ":" :: rest => do
        let (right, rest) ← readChoice fuel rest
        return (.choose test left right, rest)
      | _ => .error (.expecting "':'")
    | _ => return (test, rest)

/-- Read an expression of operators that bind at least as tightly as the first of some levels. -/
def readLevel : (fuel : Nat) → List (List String) → List Token → Except Fault (Arith × List Token)
  | 0, _, _ => .error primary
  | fuel + 1, [], tokens => readUnary fuel tokens
  | fuel + 1, level :: tighter, tokens => do
    let (left, rest) ← readLevel fuel tighter tokens
    readOperands fuel level tighter left rest

/-- Read further operands of the operators of a level. -/
def readOperands : (fuel : Nat) → List String → List (List String) → Arith → List Token →
    Except Fault (Arith × List Token)
  | 0, _, _, _, _ => .error primary
  | fuel + 1, level, tighter, left, tokens =>
    match tokens with
    | .sign sign :: rest =>
      if level.contains sign then do
        let (right, rest) ← readLevel fuel tighter rest
        readOperands fuel level tighter (.binary sign left right) rest
      else .ok (left, tokens)
    | _ => .ok (left, tokens)

/-- Read an operand with the operators before it. -/
def readUnary : (fuel : Nat) → List Token → Except Fault (Arith × List Token)
  | 0, _ => .error primary
  | fuel + 1, tokens =>
    match tokens with
    | .number n :: rest => .ok (.number n, rest)
    | .name name :: rest => .ok (.variable name, rest)
    | .sign "(" :: rest => do
      let (inner, rest) ← read fuel rest
      match rest with
      | .sign ")" :: rest => return (inner, rest)
      | _ => .error (.expecting "')'")
    | .sign sign :: rest =>
      if ["+", "-", "!", "~"].contains sign then do
        let (operand, rest) ← readUnary fuel rest
        return (.unary sign operand, rest)
      else .error primary
    | [] => .error primary

end

/-- The expression that a text is; an empty one is zero. -/
def parse (text : List Char) : Except Fault Arith := do
  let items := tokens (text.length + 1) text
  if items.isEmpty then return .number 0
  let (expression, rest) ← read ((items.length + 1) * (levels.length + 4)) items
  if rest.isEmpty then return expression else .error (.expecting "EOF")

/-- The number that stands for a truth value. -/
def ofBool (truth : Bool) : Int := if truth then 1 else 0

/-- What an operator makes of two numbers. -/
def combine (operator : String) (a b : Int) : Except Fault Int :=
  match operator with
  | "+" => .ok (wrap (a + b))
  | "-" => .ok (wrap (a - b))
  | "*" => .ok (wrap (a * b))
  | "/" => if b = 0 then .error .divisionByZero else .ok (wrap (a.tdiv b))
  | "%" => if b = 0 then .error .divisionByZero else .ok (wrap (a.tmod b))
  | "<<" => .ok (wrap (a * Nat.pow 2 (b % 64).toNat))
  | ">>" => .ok (a.fdiv (Nat.pow 2 (b % 64).toNat))
  | "<" => .ok (ofBool (a < b))
  | "<=" => .ok (ofBool (a ≤ b))
  | ">" => .ok (ofBool (b < a))
  | ">=" => .ok (ofBool (b ≤ a))
  | "==" => .ok (ofBool (a = b))
  | "!=" => .ok (ofBool (a ≠ b))
  | "&" => .ok (BitVec.ofInt 64 a &&& BitVec.ofInt 64 b).toInt
  | "|" => .ok (BitVec.ofInt 64 a ||| BitVec.ofInt 64 b).toInt
  | "^" => .ok (BitVec.ofInt 64 a ^^^ BitVec.ofInt 64 b).toInt
  | _ => .error primary

/-- What an operator makes of a number. -/
def apply (operator : String) (a : Int) : Int :=
  match operator with
  | "-" => wrap (-a)
  | "!" => ofBool (a = 0)
  | "~" => -a - 1
  | _ => a

/-- The number that a variable holds: zero if it has no value. -/
def held (value : Option String) : Except Fault Int :=
  match value with
  | none => .ok 0
  | some text =>
    match integer? text.toList with
    | some n => .ok n
    | none => .error (.notNumber text)

/-- The value of an expression, and the variables after it. Variables are looked for among those
that have been assigned before `lookup` is asked. -/
def evaluate (lookup : String → Option String) :
    Arith → List (String × String) → Except Fault (Int × List (String × String))
  | .number n, assigned => .ok (wrap n, assigned)
  | .variable name, assigned => do
    return (← held ((assigned.lookup name).or (lookup name)), assigned)
  | .unary operator operand, assigned => do
    let (a, assigned) ← operand.evaluate lookup assigned
    return (apply operator a, assigned)
  | .binary "&&" left right, assigned => do
    let (a, assigned) ← left.evaluate lookup assigned
    if a = 0 then return (0, assigned)
    let (b, assigned) ← right.evaluate lookup assigned
    return (ofBool (b ≠ 0), assigned)
  | .binary "||" left right, assigned => do
    let (a, assigned) ← left.evaluate lookup assigned
    if a ≠ 0 then return (1, assigned)
    let (b, assigned) ← right.evaluate lookup assigned
    return (ofBool (b ≠ 0), assigned)
  | .binary operator left right, assigned => do
    let (a, assigned) ← left.evaluate lookup assigned
    let (b, assigned) ← right.evaluate lookup assigned
    return (← combine operator a b, assigned)
  | .choose test left right, assigned => do
    let (a, assigned) ← test.evaluate lookup assigned
    if a ≠ 0 then left.evaluate lookup assigned else right.evaluate lookup assigned
  | .assign name operator value, assigned => do
    let (b, assigned) ← value.evaluate lookup assigned
    let n ← match operator with
      | none => .ok b
      | some operator => do
        combine operator (← held ((assigned.lookup name).or (lookup name))) b
    return (n, (name, toString n) :: assigned)

end Arith

end CommandShell.Programs.Script
