/-!
# Identifiers

Variable names are ASCII: a letter or underscore, then letters, digits and underscores.
-/

namespace CommandShell.Text

/-- The character may begin a variable name. -/
def isNameStart (c : Char) : Bool :=
  c.isAlpha || c == '_'

/-- The character may continue a variable name. -/
def isNameChar (c : Char) : Bool :=
  c.isAlphanum || c == '_'

/-- The text is a variable name. -/
def isIdentifier : List Char → Bool
  | [] => false
  | c :: rest => isNameStart c && rest.all isNameChar

/-- What may begin a name may also continue it. -/
theorem isNameChar_of_isNameStart {c : Char} (h : isNameStart c = true) :
    isNameChar c = true := by
  simp only [isNameStart, isNameChar, Char.isAlphanum, Bool.or_eq_true] at h ⊢
  exact h.elim (fun ha => .inl (.inl ha)) .inr

end CommandShell.Text
