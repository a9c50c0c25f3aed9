import CommandShell.Line.Unquoted
import CommandShell.Proofs.Line.Quoting

/-!
# Quote removal as a fold

The loops that remove quotes go from one to the other at quotes, as those that split a line do. Here
they are one automaton that takes a token character by character (`Remover.resume_append`,
`unquote_eq_finish`). What a character leaves behind depends on where it stands only (`left`).
-/

namespace CommandShell.Line

/-- What a character leaves behind, by where it stands. -/
def left : Quoting → Char → List Char
  | .bare, c => if c = '\'' ∨ c = '"' then [] else [c]
  | .single, c => if c = '\'' then [] else [c]
  | .double, c => if c = '"' ∨ c = '\\' then [] else [c]
  | .escape, c => unescaped c

/-- A token with its quotes removed up to some character. -/
structure Remover where
  /-- Where the next character stands with respect to quotes. -/
  quoting : Quoting
  /-- What is left so far, last first. -/
  text : List Char
  deriving DecidableEq, Repr

namespace Remover

/-- The remover before the first character. -/
def start : Remover := ⟨.bare, []⟩

/-- Take one character. -/
def step (r : Remover) (c : Char) : Remover :=
  ⟨r.quoting.step c, (left r.quoting c).reverseAux r.text⟩

/-- Take some characters. -/
def run (r : Remover) (cs : List Char) : Remover :=
  cs.foldl step r

/-- What is left at the end; a backslash with nothing after it stays. -/
def finish (r : Remover) : List Char :=
  if r.quoting = .escape then ('\\' :: r.text).reverse else r.text.reverse

@[simp]
theorem run_append (r : Remover) (as bs : List Char) : r.run (as ++ bs) = (r.run as).run bs :=
  List.foldl_append

/-! ## The loops -/

/-- Go on with the loop for the state of the remover. -/
def resume (r : Remover) (rest : List Char) : List Char :=
  match r.quoting with
  | .bare => unquoteBare r.text rest
  | .single => unquoteSingle r.text rest
  | .double => unquoteDouble r.text rest
  | .escape => unquoteEscape r.text rest

theorem resume_nil (r : Remover) : r.resume [] = r.finish := by
  obtain ⟨q, text⟩ := r
  cases q <;> rfl

/-- The loop takes the character that the remover takes. -/
theorem resume_cons (r : Remover) (c : Char) (rest : List Char) :
    r.resume (c :: rest) = (r.step c).resume rest := by
  obtain ⟨q, text⟩ := r
  cases q with
  | bare =>
    change unquoteBare text (c :: rest) = _
    rw [unquoteBare, step]
    by_cases hsingle : c = '\''
    · simp [hsingle, resume, Quoting.step, left]
    by_cases hdouble : c = '"'
    · simp [hdouble, resume, Quoting.step, left]
    · simp [hsingle, hdouble, resume, Quoting.step, left]
  | single =>
    change unquoteSingle text (c :: rest) = _
    rw [unquoteSingle, step]
    by_cases hsingle : c = '\'' <;> simp [hsingle, resume, Quoting.step, left]
  | double =>
    change unquoteDouble text (c :: rest) = _
    rw [unquoteDouble, step]
    by_cases hdouble : c = '"'
    · simp [hdouble, resume, Quoting.step, left]
    by_cases hescape : c = '\\' <;> simp [hdouble, hescape, resume, Quoting.step, left]
  | escape => simp [resume, step, Quoting.step, left, unquoteEscape]

/-- Whatever has been taken, the loop for the state after it goes on. -/
theorem resume_append (r : Remover) (as bs : List Char) :
    r.resume (as ++ bs) = (r.run as).resume bs := by
  -- The remover is not fixed: each character moves it on.
  induction as generalizing r with
  | nil => rfl
  | cons a as ih =>
    rw [List.cons_append, resume_cons]
    exact ih (r.step a)

end Remover

/-- To remove the quotes of a token is to take all of its characters. -/
theorem unquote_eq_finish (token : List Char) :
    unquote token = (Remover.start.run token).finish := by
  have hresume := Remover.start.resume_append token []
  rw [List.append_nil, Remover.resume_nil] at hresume
  exact hresume

end CommandShell.Line
