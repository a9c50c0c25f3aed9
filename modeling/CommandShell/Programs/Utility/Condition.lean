import CommandShell.Programs.Call

/-!
# Conditions

What `test` decides: conditions on texts, numbers and files, which may be negated, put in
parentheses and joined by `-a` and `-o`. With up to four arguments their number decides how they
are read. A condition that cannot be read is neither true nor false.
-/

namespace CommandShell.Programs

/-- What conditions are decided by. -/
structure Setting where
  /-- The files. -/
  files : Files
  /-- Two equals signs compare texts as one does. -/
  doubleEquals : Bool

namespace Setting

/-- Operators that compare texts or numbers or files. -/
def binaryOperators (setting : Setting) : List String :=
  ["=", "!=", "-eq", "-ne", "-lt", "-le", "-gt", "-ge", "-nt", "-ot", "-ef"] ++
    (if setting.doubleEquals then ["=="] else ["<", ">"])

/-- Operators that ask something about a text or a file. -/
def unaryOperators : List String :=
  ["-n", "-z", "-e", "-f", "-d", "-r", "-w", "-x", "-s", "-L", "-h", "-p", "-S", "-b", "-c", "-g",
    "-u", "-k", "-O", "-G", "-t"]

/-- The number that a text is, with blanks around it. -/
def number? (text : String) : Option Int :=
  let isBlank (c : Char) : Bool := c = ' ' || ('\t' ≤ c && c ≤ '\r')
  let inner := ((text.toList.dropWhile isBlank).reverse.dropWhile isBlank).reverse
  let (negative, digits) := match inner with
    | '-' :: digits => (true, digits)
    | '+' :: digits => (false, digits)
    | _ => (false, inner)
  if digits.isEmpty || digits.any (!·.isDigit) then none
  else
    let n : Int := digits.foldl (fun n c => n * 10 + (c.toNat - '0'.toNat)) 0
    some (if negative then -n else n)

/-- Decide what is asked about a text or a file. -/
def unary (setting : Setting) (operator operand : String) : Bool :=
  let entry := (setting.files.find operand).toOption
  match operator with
  | "-n" => !operand.isEmpty
  | "-z" => operand.isEmpty
  | "-e" | "-r" | "-w" | "-O" | "-G" => entry.isSome
  | "-f" => entry.any (· != .directory)
  | "-d" => entry = some .directory
  | "-x" => entry.any fun
    | .directory => true
    | .file _ executable => executable
    | .locked _ | .torn .. => false
  | "-s" => entry.any fun
    | .directory => true
    | .file data _ | .torn data _ => !data.isEmpty
    | .locked _ => false
  | _ => false

/-- Decide how two texts, numbers or files compare. -/
def binary (setting : Setting) (operator left right : String) : Option Bool :=
  let compare (relation : Int → Int → Bool) : Option Bool := do
    return relation (← number? left) (← number? right)
  match operator with
  | "=" | "==" => some (left == right)
  | "!=" => some (left != right)
  | "<" => some (left < right)
  | ">" => some (right < left)
  | "-eq" => compare (· == ·)
  | "-ne" => compare (· != ·)
  | "-lt" => compare (· < ·)
  | "-le" => compare (· ≤ ·)
  | "-gt" => compare fun a b => b < a
  | "-ge" => compare fun a b => b ≤ a
  | "-ef" =>
    match setting.files.locate left, setting.files.locate right with
    | .ok a, .ok b => some (a == b)
    | _, _ => some false
  | _ => some false

mutual

/-- Read and decide conditions joined by `-o`; `fuel` bounds the number of steps. -/
def readAny (setting : Setting) : (fuel : Nat) → List String → Option (Bool × List String)
  | 0, _ => none
  | fuel + 1, args => do
    let (first, rest) ← setting.readAll fuel args
    match rest with
    | "-o" :: rest => do
      let (others, rest) ← setting.readAny fuel rest
      return (first || others, rest)
    | _ => return (first, rest)

/-- Read and decide conditions joined by `-a`. -/
def readAll (setting : Setting) : (fuel : Nat) → List String → Option (Bool × List String)
  | 0, _ => none
  | fuel + 1, args => do
    let (first, rest) ← setting.readOne fuel args
    match rest with
    | "-a" :: rest => do
      let (others, rest) ← setting.readAll fuel rest
      return (first && others, rest)
    | _ => return (first, rest)

/-- Read and decide a single condition. -/
def readOne (setting : Setting) : (fuel : Nat) → List String → Option (Bool × List String)
  | 0, _ => none
  | fuel + 1, args =>
    match args with
    | [] => none
    | a :: operator :: b :: rest =>
      if setting.binaryOperators.contains operator then do
        return (← setting.binary operator a b, rest)
      else setting.readSimple fuel args
    | _ => setting.readSimple fuel args

/-- Read and decide a condition that begins with an operator, or a text. -/
def readSimple (setting : Setting) : (fuel : Nat) → List String → Option (Bool × List String)
  | 0, _ => none
  | fuel + 1, args =>
    match args with
    | [] => none
    | "!" :: rest => (setting.readOne fuel rest).map fun (truth, rest) => (!truth, rest)
    | "(" :: rest => do
      match ← setting.readAny fuel rest with
      | (truth, ")" :: rest) => return (truth, rest)
      | _ => none
    | operator :: rest =>
      match rest with
      | operand :: more =>
        if unaryOperators.contains operator then some (setting.unary operator operand, more)
        else some (!operator.isEmpty, rest)
      | [] => some (!operator.isEmpty, [])

end

/-- Decide a condition of any length. -/
def decideLong (setting : Setting) (args : List String) : Option Bool :=
  match setting.readAny (4 * args.length + 4) args with
  | some (truth, []) => some truth
  | _ => none

/-- Decide a condition with two arguments. -/
def decideTwo (setting : Setting) (first second : String) : Option Bool :=
  if first = "!" then some second.isEmpty
  else if unaryOperators.contains first then some (setting.unary first second)
  else none

/-- Decide a condition with three arguments. -/
def decideThree (setting : Setting) (first second third : String) : Option Bool :=
  if setting.binaryOperators.contains second then setting.binary second first third
  else if first = "!" then (setting.decideTwo second third).map (!·)
  else if first = "(" && third = ")" then some (!second.isEmpty)
  else if second = "-a" || second = "-o" then setting.decideLong [first, second, third]
  else none

/-- Decide a condition. -/
def decide (setting : Setting) (args : List String) : Option Bool :=
  match args with
  | [] => some false
  | [text] => some (!text.isEmpty)
  | [first, second] => setting.decideTwo first second
  | [first, second, third] => setting.decideThree first second third
  | ["!", first, second, third] => (setting.decideThree first second third).map (!·)
  | ["(", first, second, ")"] => setting.decideTwo first second
  | _ => setting.decideLong args

end Setting

/-- The code that tells what has been decided. -/
def decisionCode : Option Bool → UInt8
  | some true => 0
  | some false => 1
  | none => 2

/-- Decide a condition under one of its two names, one of which wants a bracket at the end. -/
def decideCalled (setting : Setting) (name : String) (args : List String) : UInt8 :=
  if name = "[" then
    if args.getLast? = some "]" then decisionCode (setting.decide args.dropLast) else 2
  else decisionCode (setting.decide args)

/-- End with a code that says whether a condition holds. -/
def test : Utility := fun call =>
  let code := decideCalled ⟨call.files, true⟩ call.baseName call.args
  if code = 2 then call.refused 2 "no condition" else call.ended code []

end CommandShell.Programs
