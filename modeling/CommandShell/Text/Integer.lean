/-!
# Integers in Decimal

Reading integers written in decimal: an optional sign, then one or more ASCII digits, with the
value checked against a range while it is read. The checks are made digit by digit, so the first
offending digit decides between the two complaints "not a digit" and "out of range".
-/

namespace CommandShell.Text

/-- Why a text is not an integer of the wanted range. -/
inductive IntegerFault where
  /-- There is no text. -/
  | empty
  /-- A character is not a digit, or there is a sign only. -/
  | invalidDigit
  /-- The value is above the range. -/
  | tooLarge
  /-- The value is below the range. -/
  | tooSmall
  deriving DecidableEq, Repr

/-- The wording of the complaint. -/
def IntegerFault.message : IntegerFault → String
  | .empty => "cannot parse integer from empty string"
  | .invalidDigit => "invalid digit found in string"
  | .tooLarge => "number too large to fit in target type"
  | .tooSmall => "number too small to fit in target type"

/-- Read decimal digits after `value`, refusing as soon as the value exceeds `limit`. -/
def readDigits (limit : Nat) : (value : Nat) → List Char → Except IntegerFault Nat
  | value, [] => .ok value
  | value, c :: rest =>
    if c.isDigit then
      let value := value * 10 + (c.toNat - '0'.toNat)
      if value ≤ limit then readDigits limit value rest else .error .tooLarge
    else
      .error .invalidDigit

/-- Read one or more decimal digits as a number of at most `limit`. -/
def readNatural (limit : Nat) : List Char → Except IntegerFault Nat
  | [] => .error .invalidDigit
  | digits => readDigits limit 0 digits

/-- Read an unsigned integer of at most `limit`; a leading `+` is allowed. -/
def readUnsigned (limit : Nat) : List Char → Except IntegerFault Nat
  | [] => .error .empty
  | '+' :: digits => readNatural limit digits
  | digits => readNatural limit digits

/-- Read a signed integer between `-bound` and `bound - 1`; a leading `+` or `-` is allowed. -/
def readSigned (bound : Nat) : List Char → Except IntegerFault Int
  | [] => .error .empty
  | '-' :: digits =>
    match readNatural bound digits with
    | .ok n => .ok (-(n : Int))
    | .error .tooLarge => .error .tooSmall
    | .error fault => .error fault
  | '+' :: digits => (readNatural (bound - 1) digits).map Int.ofNat
  | digits => (readNatural (bound - 1) digits).map Int.ofNat

/-- The decimal digits of a number, most significant first and without leading zeros. -/
def decimalDigits (n : Nat) : List Char :=
  Nat.toDigits 10 n

/-- An integer in canonical decimal: a `-` in front of negative values, no leading zeros. -/
def decimal (n : Int) : String :=
  match n with
  | .ofNat n => String.ofList (decimalDigits n)
  | .negSucc n => String.ofList ('-' :: decimalDigits (n + 1))

end CommandShell.Text
