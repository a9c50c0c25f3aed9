/-!
# Quoting

How far quoting reaches on a line. Single quotes take everything literally up to the next single
quote. Inside double quotes a backslash takes the next character with it, so that a quote after a
backslash does not close. Outside quotes a backslash is an ordinary character.

Splitting, expansion and quote removal each go over a text with loops of their own. This is the
automaton that all of them follow.
-/

namespace CommandShell.Line

/-- Where a character of a line stands with respect to quotes. -/
inductive Quoting where
  /-- Outside quotes. -/
  | bare
  /-- Inside single quotes. -/
  | single
  /-- Inside double quotes. -/
  | double
  /-- Inside double quotes, just after a backslash. -/
  | escape
  deriving DecidableEq, Repr

namespace Quoting

/-- The state after one more character. -/
def step : Quoting → Char → Quoting
  | .bare, c => if c = '\'' then .single else if c = '"' then .double else .bare
  | .single, c => if c = '\'' then .bare else .single
  | .double, c => if c = '"' then .bare else if c = '\\' then .escape else .double
  | .escape, _ => .double

/-- The state after some more characters. -/
def run (q : Quoting) (cs : List Char) : Quoting :=
  cs.foldl step q

/-- The quote that is open in a state, if any. -/
def openQuote? : Quoting → Option Char
  | .bare => none
  | .single => some '\''
  | .double | .escape => some '"'

@[simp]
theorem run_nil (q : Quoting) : q.run [] = q := rfl

@[simp]
theorem run_cons (q : Quoting) (c : Char) (cs : List Char) :
    q.run (c :: cs) = (q.step c).run cs := rfl

@[simp]
theorem run_append (q : Quoting) (as bs : List Char) :
    q.run (as ++ bs) = (q.run as).run bs :=
  List.foldl_append

/-- No quote is open exactly outside quotes. -/
theorem openQuote?_eq_none_iff {q : Quoting} : q.openQuote? = none ↔ q = .bare := by
  cases q <;> simp [openQuote?]

end Quoting

end CommandShell.Line
