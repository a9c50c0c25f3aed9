import CommandShell.Line.Token
import CommandShell.Proofs.Line.Quoting

/-!
# Splitting as a fold

The loops that split a line go from one to the other at quotes. Here they are one automaton that
takes the line character by character: its state tells which loop goes on (`Splitter.quoting`), with
the token that is being collected and the tokens that are finished. Whatever has been taken, the
loop that goes on is the one for that state (`Splitter.resume_append`), so that to split a line is
to run the automaton over it (`tokenize_eq_finish`).
-/

namespace CommandShell.Line

/-- A line split up to some character. -/
structure Splitter where
  /-- Where the next character stands with respect to quotes. -/
  quoting : Quoting
  /-- The characters of the token being collected, last first. -/
  current : Token
  /-- The finished tokens, last first. -/
  tokens : List Token
  deriving DecidableEq, Repr

namespace Splitter

/-- The splitter before the first character. -/
def start : Splitter := ⟨.bare, [], []⟩

/-- The finished tokens, last first, once the current token is finished as well. -/
def flushed (s : Splitter) : List Token :=
  if s.current.isEmpty then s.tokens else s.current.reverse :: s.tokens

/-- Take one character. -/
def step (s : Splitter) (c : Char) : Splitter :=
  if s.quoting = .bare ∧ c = '|' then ⟨.bare, [], pipe :: s.flushed⟩
  else if s.quoting = .bare ∧ Text.isBlank c = true then ⟨.bare, [], s.flushed⟩
  else ⟨s.quoting.step c, c :: s.current, s.tokens⟩

/-- Take some characters. -/
def run (s : Splitter) (cs : List Char) : Splitter :=
  cs.foldl step s

/-- All tokens in order, or the complaint that a quote is open. -/
def finish (s : Splitter) : Except Error (List Token) :=
  match s.quoting.openQuote? with
  | some quote => .error (unclosed quote)
  | none => .ok s.flushed.reverse

@[simp]
theorem run_append (s : Splitter) (as bs : List Char) : s.run (as ++ bs) = (s.run as).run bs :=
  List.foldl_append

/-! ## The loops -/

/-- Go on with the loop for the state of the splitter. -/
def resume (s : Splitter) (rest : List Char) : Except Error (List Token) :=
  match s.quoting with
  | .bare => splitBare s.current s.tokens rest
  | .single => splitSingle s.current s.tokens rest
  | .double => splitDouble s.current s.tokens rest
  | .escape => splitEscape s.current s.tokens rest

theorem resume_nil (s : Splitter) : s.resume [] = s.finish := by
  obtain ⟨q, current, tokens⟩ := s
  cases q <;> rfl

/-- The loop takes the character that the splitter takes. -/
theorem resume_cons (s : Splitter) (c : Char) (rest : List Char) :
    s.resume (c :: rest) = (s.step c).resume rest := by
  obtain ⟨q, current, tokens⟩ := s
  cases q with
  | bare =>
    -- The loop tells blanks, pipes and quotes apart; the splitter leaves the quotes to `Quoting`.
    change splitBare current tokens (c :: rest) = _
    rw [splitBare, step]
    by_cases hbar : c = '|'
    · simp [hbar, resume, flushed, Line.flushed]
    by_cases hblank : Text.isBlank c = true
    · simp [hbar, hblank, resume, flushed, Line.flushed]
    by_cases hsingle : c = '\''
    · subst hsingle
      simp [hblank, resume, Quoting.step]
    by_cases hdouble : c = '"'
    · subst hdouble
      simp [hblank, resume, Quoting.step]
    · simp [hbar, hblank, hsingle, hdouble, resume, Quoting.step]
  | single =>
    change splitSingle current tokens (c :: rest) = _
    rw [splitSingle, step]
    by_cases hsingle : c = '\'' <;> simp [hsingle, resume, Quoting.step]
  | double =>
    change splitDouble current tokens (c :: rest) = _
    rw [splitDouble, step]
    by_cases hdouble : c = '"'
    · simp [hdouble, resume, Quoting.step]
    by_cases hescape : c = '\\' <;> simp [hdouble, hescape, resume, Quoting.step]
  -- Behind a backslash the loop takes any character, so there is nothing to tell apart.
  | escape => simp [resume, step, Quoting.step, splitEscape]

/-- Whatever has been taken, the loop for the state after it goes on. -/
theorem resume_append (s : Splitter) (as bs : List Char) :
    s.resume (as ++ bs) = (s.run as).resume bs := by
  induction as generalizing s with
  | nil => rfl
  | cons a as ih =>
    rw [List.cons_append, resume_cons]
    exact ih (s.step a)

end Splitter

/-- To split a line is to take all of its characters. -/
theorem tokenize_eq_finish (line : List Char) :
    tokenize line = (Splitter.start.run line).finish := by
  have hresume := Splitter.start.resume_append line []
  rw [List.append_nil, Splitter.resume_nil] at hresume
  exact hresume

end CommandShell.Line
