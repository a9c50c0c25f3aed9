import CommandShell.Proofs.Line.Faults

/-!
# Refused lines

What is complained about when a line is refused that is not blank: a quote that is not closed, an
assignment without a value, or a stage without words (`isRefusal_of_parse`). The first and the last
are mistakes in how the line is written, and lead to exit code 2; the other one leads to exit code
1.
-/

namespace CommandShell.Line

/-- The complaint is one about a line that is not blank, and leads to this exit code. -/
inductive IsRefusal : Error → Int → Prop
  | unclosedQuote (quote : Char) (hint : Option String) :
      IsRefusal (.unclosedQuote quote hint) 2
  | emptyAssignment (name : String) : IsRefusal (.emptyAssignment name) 1
  | emptyStage : IsRefusal .emptyStage 2

theorem IsRefusal.exitCode_eq {e : Error} {code : Int} (h : IsRefusal e code) :
    e.exitCode = code := by
  cases h <;> rfl

theorem isRefusal_unclosed (quote : Char) : IsRefusal (unclosed quote) 2 := by
  rw [unclosed]
  split
  · exact .unclosedQuote _ _
  · exact .unclosedQuote _ _

/-- A line that is not blank is refused only in these ways. -/
theorem isRefusal_of_parse {env : Environment} {line : String} {e : Error}
    (hblank : ¬Text.IsBlankText line.toList) (h : parse env line = .error e) :
    IsRefusal e e.exitCode := by
  suffices hrefusal : ∃ code, IsRefusal e code by
    obtain ⟨code, hcode⟩ := hrefusal
    rwa [hcode.exitCode_eq]
  cases htokens : tokenize line.toList with
  | error e' =>
    -- The line itself cannot be cut into tokens.
    obtain ⟨quote, -, rfl⟩ := tokenize_eq_error_iff.mp htokens
    rw [parse_of_tokenize_eq_error env hblank htokens] at h
    obtain rfl := Except.error.inj h
    exact ⟨2, isRefusal_unclosed quote⟩
  | ok tokens =>
    rw [parse_eq_statementOf env hblank htokens] at h
    by_cases hassignment : IsAssignment line.toList
    · obtain ⟨name, value, hline, hname⟩ := hassignment
      obtain rfl := Except.ok.inj (htokens.symm.trans hline)
      obtain ⟨-, rfl⟩ := (statementOf_assignment_eq_error_iff env hname e).mp h
      exact ⟨1, .emptyAssignment _⟩
    · -- What remains is a pipeline, in whose expanded words only a stage can be missing.
      have hnone : ∀ token, tokens = [token] → assignment? token = none := by
        intro token htoken
        by_contra hsome
        exact hassignment ((isAssignment_iff htokens).mpr ⟨token, htoken, hsome⟩)
      obtain ⟨words, hwords, -⟩ := items_expandedWords env
        fun _ hmem => isClosed_of_mem_tokenize htokens hmem
      rw [statementOf_eq env hnone, hwords] at h
      obtain ⟨rfl, -⟩ := (pipelineOf_eq_error_iff words e).mp h
      exact ⟨2, .emptyStage⟩

end CommandShell.Line
