import CommandShell.Programs.Regular.Matching
import CommandShell.Programs.Regular.Reader

/-!
# Calculating

The program `expr`, whose arguments are the parts of an expression on numbers and texts. It ends
with the code 1 if the value is empty or zero.
-/

namespace CommandShell.Programs

namespace Calculation

/-- What is wrong with an expression. -/
inductive Fault where
  /-- It ends too early. -/
  | missing (after : String)
  /-- It goes on where it should end. -/
  | unexpected (argument : String)
  /-- A parenthesis is not closed. -/
  | unclosed (after : String)
  /-- Another argument stands where a parenthesis should be closed. -/
  | notClosed (argument : String)
  /-- A number is wanted. -/
  | noNumber
  /-- Something is divided by zero. -/
  | zeroDivisor
  /-- A regular expression is none. -/
  | badPattern (fault : Regular.Fault)
  deriving DecidableEq, Repr

/-- The wording of a fault. -/
def Fault.message : Fault → String
  | .missing after => s!"syntax error: missing argument after '{after}'"
  | .unexpected argument => s!"syntax error: unexpected argument '{argument}'"
  | .unclosed after => s!"syntax error: expecting ')' after '{after}'"
  | .notClosed argument => s!"syntax error: expecting ')' instead of '{argument}'"
  | .noNumber => "non-integer argument"
  | .zeroDivisor => "division by zero"
  | .badPattern fault => fault.message

/-- The number that a text is. -/
def integer? (text : String) : Option Int :=
  let (negative, digits) := match text.toList with
    | '-' :: digits => (true, digits)
    | digits => (false, digits)
  if digits.isEmpty || digits.any (!·.isDigit) then none
  else
    let n : Int := digits.foldl (fun n c => n * 10 + (c.toNat - '0'.toNat)) 0
    some (if negative then -n else n)

/-- The value is empty or zero. -/
def isNull (text : String) : Bool :=
  text.isEmpty ||
    match text.toList with
    | '-' :: digits => !digits.isEmpty && digits.all (· == '0')
    | digits => digits.all (· == '0')

/-- A number from a truth value. -/
def truth (isTrue : Bool) : String := if isTrue then "1" else "0"

/-- What a pattern matches at the beginning of a text: its first group, or how much. -/
def matched (text pattern : String) : Except Fault String :=
  match Regular.read false (utf8 pattern) with
  | .error fault => .error (.badPattern fault)
  | .ok regular =>
    let subject : Regular.Subject := ⟨(utf8 text).toArray, false, false⟩
    let hasGroup := regular.groupCount != 0
    match subject.endsAt regular 0 with
    | stop :: _ =>
      if hasGroup then
        let found : Regular.Match := ⟨0, stop, subject.capturesOf regular 0 stop⟩
        .ok (lossyText (found.text subject 1))
      else .ok (toString stop)
    | [] => .ok (if hasGroup then "" else "0")

/-- Two numbers put together by a sign. -/
def combine (sign left right : String) : Except Fault String := do
  match integer? left, integer? right with
  | some a, some b =>
    match sign with
    | "+" => return toString (a + b)
    | "-" => return toString (a - b)
    | "*" => return toString (a * b)
    | _ =>
      if b = 0 then .error .zeroDivisor
      else return toString (if sign = "/" then a.tdiv b else a.tmod b)
  | _, _ => .error .noNumber

/-- Two values compared, as numbers if both are. -/
def compared (sign left right : String) : String :=
  let order := match integer? left, integer? right with
    | some a, some b => compare a b
    | _, _ => compare left right
  truth (match sign with
    | "<" => order = .lt
    | "<=" => order != .gt
    | "=" | "==" => order = .eq
    | "!=" => order != .eq
    | ">=" => order != .lt
    | _ => order = .gt)

/-- The signs of operators, level by level from the loosest one on. -/
def levels : List (List String) :=
  [["|"], ["&"], ["<", "<=", "=", "==", "!=", ">=", ">"], ["+", "-"], ["*", "/", "%"], [":"]]

/-- Put two values together by the sign of an operator. -/
def apply (sign left right : String) : Except Fault String :=
  match sign with
  | "|" => .ok (if !isNull left then left else if !isNull right then right else "0")
  | "&" => .ok (if isNull left || isNull right then "0" else left)
  | ":" => matched left right
  | _ =>
    if ["<", "<=", "=", "==", "!=", ">=", ">"].contains sign then .ok (compared sign left right)
    else combine sign left right

/-- The part of a text from a position on, counted from 1. -/
def substring (text start size : String) : String :=
  match integer? start, integer? size with
  | some start, some size =>
    if start ≤ 0 || size ≤ 0 then ""
    else lossyText (((utf8 text).drop (start.toNat - 1)).take size.toNat)
  | _, _ => ""

/-- The position of the first byte of a text that is among some others. -/
def index (text others : String) : String :=
  let others := utf8 others
  toString (((utf8 text).findIdx? others.contains).elim 0 (· + 1))

mutual

/-- Read and evaluate operands with the operators of some levels between them; `last` is the
argument before, and `fuel` bounds the number of steps. -/
def readLevel : (fuel : Nat) → List (List String) → (last : String) → List String →
    Except Fault (String × String × List String)
  | 0, _, last, _ => .error (.missing last)
  | fuel + 1, [], last, args => readOperand fuel last args
  | fuel + 1, signs :: inner, last, args => do
    let (value, last, rest) ← readLevel fuel inner last args
    readMore fuel signs inner value last rest

/-- Read and evaluate further operands of a level after a first value. -/
def readMore : (fuel : Nat) → (signs : List String) → List (List String) → (value last : String) →
    List String → Except Fault (String × String × List String)
  | 0, _, _, _, last, _ => .error (.missing last)
  | _, _, _, value, last, [] => .ok (value, last, [])
  | fuel + 1, signs, inner, value, last, arg :: rest => do
    if !signs.contains arg then return (value, last, arg :: rest)
    let (other, last, rest) ← readLevel fuel inner arg rest
    readMore fuel signs inner (← apply arg value other) last rest

/-- Read and evaluate an operand. -/
def readOperand : (fuel : Nat) → (last : String) → List String →
    Except Fault (String × String × List String)
  | 0, last, _ | _, last, [] => .error (.missing last)
  | fuel + 1, _, "(" :: rest => do
    let (value, last, rest) ← readLevel fuel levels "(" rest
    match rest with
    | ")" :: rest => return (value, ")", rest)
    | arg :: _ => .error (.notClosed arg)
    | [] => .error (.unclosed last)
  | _, _, ")" :: _ => .error (.unexpected ")")
  | _, _, ["+"] => .error (.missing "+")
  | _, _, "+" :: arg :: rest => .ok (arg, arg, rest)
  | fuel + 1, _, "length" :: rest => do
    let (value, last, rest) ← readOperand fuel "length" rest
    return (toString value.utf8ByteSize, last, rest)
  | fuel + 1, _, "match" :: rest => do
    let (text, last, rest) ← readOperand fuel "match" rest
    let (pattern, last, rest) ← readOperand fuel last rest
    return (← matched text pattern, last, rest)
  | fuel + 1, _, "index" :: rest => do
    let (text, last, rest) ← readOperand fuel "index" rest
    let (others, last, rest) ← readOperand fuel last rest
    return (index text others, last, rest)
  | fuel + 1, _, "substr" :: rest => do
    let (text, last, rest) ← readOperand fuel "substr" rest
    let (start, last, rest) ← readOperand fuel last rest
    let (size, last, rest) ← readOperand fuel last rest
    return (substring text start size, last, rest)
  | _, _, arg :: rest => .ok (arg, arg, rest)

end

/-- The value of an expression. -/
def evaluate (args : List String) : Except Fault String := do
  match ← readLevel (args.length * 16 + 16) levels "" args with
  | (value, _, []) => return value
  | (_, _, arg :: _) => .error (.unexpected arg)

end Calculation

/-- Print the value of an expression. -/
def expr : Utility := fun call =>
  let args := if call.args.head? = some "--" then call.args.tail else call.args
  if args.isEmpty then call.lacking 2
  else
    match Calculation.evaluate args with
    | .error fault => call.refused 2 fault.message
    | .ok value => call.ended (if Calculation.isNull value then 1 else 0) (utf8 (value ++ "\n"))

end CommandShell.Programs
