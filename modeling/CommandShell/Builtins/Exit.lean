import CommandShell.Error
import CommandShell.Text.Integer

/-!
# Ending the Session

`exit` ends the session with a status, which is 0 or the low eight bits of its argument.
-/

namespace CommandShell.Exit

/-- The argument is read as a signed number of this many values on either side of zero. -/
def argumentBound : Nat := Nat.pow 2 63

/-- The number of different statuses. -/
def statusCount : Int := 256

/-- The status that some arguments ask for. -/
def status : List String → Except Error Int
  | [] => .ok 0
  | [text] =>
    match Text.readSigned argumentBound text.toList with
    | .ok n => .ok (n % statusCount)
    | .error _ => .error (.usage "exit" (text ++ ": numeric argument required"))
  | _ => .error (.usage "exit" "too many arguments")

end CommandShell.Exit
