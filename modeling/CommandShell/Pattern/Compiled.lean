import CommandShell.Error
import CommandShell.Pattern.Meaning

/-!
# Patterns

A pattern that is ready to be searched for, made from its text. A text that is no pattern is
complained about with the place of the fault in it.

Patterns are made by an engine that is not part of the shell. What a text means is settled by the
language of patterns (`Pattern.interpret`); but an engine also refuses a text whose pattern would
take too much room when it is ready, and how much that is, is its own affair (`Engine.ofSize`).
-/

namespace CommandShell

/-- A pattern to search for. -/
structure Pattern where
  /-- The text it was made from. -/
  source : String
  /-- It matches somewhere in a line. -/
  isMatch : List Char → Bool

namespace Pattern

/-- What a text means as a pattern; with `ignoreCase`, letters match in either case. -/
def interpret (ignoreCase : Bool) (source : String) : Except Error Meaning :=
  let text := source.toList
  let result := do
    let node ← readWithinLimit text
    node.meaning (.initial ignoreCase)
  match result with
  | .ok (meaning, _) => .ok meaning
  | .error fault => .error (.pattern (fault.render text))

/-- What makes patterns of texts. -/
abbrev Engine := (ignoreCase : Bool) → (source : String) → Except Error Pattern

/-- The greatest size that a pattern can have when it is ready, in bytes. -/
def sizeLimit : Nat := 10 * 1024 * 1024

/-- The complaint about a pattern that is too big. -/
def tooBig : Error :=
  .pattern ("Compiled regex exceeds size limit of " ++ Text.decimal sizeLimit ++ " bytes.")

/-- The engine in which the patterns of texts have given sizes. -/
def Engine.ofSize (size : Bool → String → Nat) : Engine := fun ignoreCase source => do
  let meaning ← interpret ignoreCase source
  if size ignoreCase source ≤ sizeLimit then return ⟨source, meaning.isFound⟩
  else .error tooBig

/-- The least number of states in which the characters of an expression can be matched. Each time
that a repetition goes through its body takes states of its own. -/
def Expr.leastStates {κ τ : Type} : Expr κ τ → Nat
  | .empty | .look _ => 0
  | .oneOf _ => 1
  | .sequence first second => first.leastStates + second.leastStates
  | .either left right => max left.leastStates right.leastStates
  | .repeated body least most => body.leastStates * most.getD (max least 1)

/-- The room that a state takes, in bytes. -/
def stateSize : Nat := 32

/-- A size that the pattern of a text has at least. -/
def leastSize (ignoreCase : Bool) (source : String) : Nat :=
  match interpret ignoreCase source with
  | .ok meaning => stateSize * meaning.leastStates
  | .error _ => 0

/-- Make a pattern of a text, unless it is certain to be too big. -/
def compile : Engine := .ofSize leastSize

/-- The text of a pattern that matches whole words only. -/
def wholeWord (source : String) : String :=
  "\\b(?:" ++ source ++ ")\\b"

end Pattern

end CommandShell
