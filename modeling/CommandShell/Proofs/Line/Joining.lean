import CommandShell.Proofs.Line.Meaning

/-!
# Lines that are put together

What a line is split into is known from its parts. A text without blanks and bars outside quotes is
a single token (`tokenize_of_isSolid`). Behind a text that closes its quotes, a blank or a bar
begins anew: what comes after it is split as if it stood alone (`tokenize_append_blank`,
`tokenize_append_bar`). Once the tokens are known, so is what the line means
(`parse_eq_pipelineOfItems`).
-/

namespace CommandShell.Line

/-- Of a text that begins in state `q`, no blank and no bar stands outside quotes. -/
def IsSolid : (q : Quoting) → List Char → Prop
  | _, [] => True
  | q, c :: rest => (q = .bare → c ≠ '|' ∧ Text.isBlank c = false) ∧ IsSolid (q.step c) rest

instance decidableIsSolid : (q : Quoting) → (cs : List Char) → Decidable (IsSolid q cs)
  | _, [] => .isTrue trivial
  | q, c :: rest =>
    have := decidableIsSolid (q.step c) rest
    inferInstanceAs (Decidable ((q = .bare → _) ∧ IsSolid (q.step c) rest))

namespace IsSolid

variable {q : Quoting} {as bs : List Char}

theorem append (has : IsSolid q as) (hbs : IsSolid (q.run as) bs) : IsSolid q (as ++ bs) := by
  induction as generalizing q with
  | nil => exact hbs
  | cons a as ih => exact ⟨has.1, ih has.2 hbs⟩

/-- Outside quotes, a text without blanks, bars and quotes is solid. -/
theorem of_plain {cs : List Char} (hquotes : ∀ c ∈ cs, c ≠ '\'' ∧ c ≠ '"')
    (h : ∀ c ∈ cs, c ≠ '|' ∧ Text.isBlank c = false) : IsSolid .bare cs := by
  induction cs with
  | nil => trivial
  | cons c cs ih =>
    obtain ⟨hquote, hquotes⟩ := List.forall_mem_cons.mp hquotes
    obtain ⟨hc, hcs⟩ := List.forall_mem_cons.mp h
    refine ⟨fun _ => hc, ?_⟩
    rw [Quoting.step_bare_of_ne hquote.1 hquote.2]
    exact ih hquotes hcs

end IsSolid

namespace Splitter

/-- All of a solid text belongs to the token that is being collected. -/
theorem run_of_isSolid {s : Splitter} {cs : List Char} (h : IsSolid s.quoting cs) :
    s.run cs = ⟨s.quoting.run cs, cs.reverse ++ s.current, s.tokens⟩ := by
  induction cs generalizing s with
  | nil => rfl
  | cons c cs ih =>
    -- A bar or a blank that could end the token would have to stand outside quotes.
    have hstep : s.step c = ⟨s.quoting.step c, c :: s.current, s.tokens⟩ := by
      rw [step, if_neg (fun hbar => (h.1 hbar.1).1 hbar.2), if_neg]
      rintro ⟨hbare, hblank⟩
      rw [(h.1 hbare).2] at hblank
      cases hblank
    change (s.step c).run cs = _
    rw [hstep, ih h.2, List.reverse_cons, List.append_assoc]
    rfl

/-- The tokens that have been finished before do not matter to what comes. -/
theorem run_tokens (q : Quoting) (current : Token) (before : List Token) (cs : List Char) :
    (⟨q, current, before⟩ : Splitter).run cs =
      let alone := (⟨q, current, []⟩ : Splitter).run cs
      ⟨alone.quoting, alone.current, alone.tokens ++ before⟩ := by
  have hstep (s : Splitter) (c : Char) :
      (⟨s.quoting, s.current, s.tokens ++ before⟩ : Splitter).step c =
        ⟨(s.step c).quoting, (s.step c).current, (s.step c).tokens ++ before⟩ := by
    unfold step flushed
    split_ifs <;> rfl
  -- The tokens before are below all others in any state.
  suffices h : ∀ s : Splitter, (⟨s.quoting, s.current, s.tokens ++ before⟩ : Splitter).run cs =
      ⟨(s.run cs).quoting, (s.run cs).current, (s.run cs).tokens ++ before⟩ from
    h ⟨q, current, []⟩
  induction cs with
  | nil => exact fun _ => rfl
  | cons c cs ih =>
    intro s
    change (step _ c).run cs = _
    rw [hstep]
    exact ih (s.step c)

/-- After some finished tokens, a text is split as if it stood alone. -/
theorem finish_run_of_tokens (before : List Token) (cs : List Char) :
    ((⟨.bare, [], before⟩ : Splitter).run cs).finish =
      (tokenize cs).map (before.reverse ++ ·) := by
  rw [run_tokens, tokenize_eq_finish]
  change finish ⟨(start.run cs).quoting, (start.run cs).current, (start.run cs).tokens ++ before⟩ =
    _
  generalize start.run cs = s
  rw [finish, finish]
  cases s.quoting.openQuote? with
  | some quote => rfl
  | none =>
    change Except.ok _ = Except.ok _
    rw [flushed, flushed]
    split <;> simp

end Splitter

/-- A solid text that closes its quotes is a single token, if it is not empty. -/
theorem tokenize_of_isSolid {cs : List Char} (hne : cs ≠ []) (hsolid : IsSolid .bare cs)
    (hclosed : IsClosed cs) : tokenize cs = .ok [cs] := by
  have hrun : Splitter.start.run cs = ⟨.bare, cs.reverse, []⟩ := by
    rw [Splitter.run_of_isSolid hsolid, Splitter.start, List.append_nil]
    exact congrArg (Splitter.mk · _ _) hclosed
  rw [tokenize_eq_ok hclosed, hrun, Splitter.flushed, if_neg (by simpa using hne)]
  simp

variable {first : List Char} {tokens : List Token}

/-- Behind a text that is split, a blank begins a new one. -/
theorem tokenize_append_blank (h : tokenize first = .ok tokens) {c : Char}
    (hc : Text.isBlank c = true) (rest : List Char) :
    tokenize (first ++ c :: rest) = (tokenize rest).map (tokens ++ ·) := by
  have hclosed := isClosed_of_tokenize h
  have hbare : (Splitter.start.run first).quoting = .bare :=
    (Splitter.quoting_run _ _).trans hclosed
  have hbar : c ≠ '|' := by rintro rfl; exact absurd hc (by decide)
  -- The blank finishes what has been collected, and leaves a splitter that has only tokens.
  have hstep : (Splitter.start.run first).step c =
      ⟨.bare, [], (Splitter.start.run first).flushed⟩ := by
    rw [Splitter.step, if_neg (fun hpipe => hbar hpipe.2), if_pos ⟨hbare, hc⟩]
  rw [tokenize_eq_ok hclosed] at h
  rw [tokenize_eq_finish, Splitter.run_append]
  change (((Splitter.start.run first).step c).run rest).finish = _
  rw [hstep, Splitter.finish_run_of_tokens, Except.ok.inj h]

/-- So does a bar, which is a token of its own. -/
theorem tokenize_append_bar (h : tokenize first = .ok tokens) (rest : List Char) :
    tokenize (first ++ '|' :: rest) = (tokenize rest).map (tokens ++ pipe :: ·) := by
  have hclosed := isClosed_of_tokenize h
  have hbare : (Splitter.start.run first).quoting = .bare :=
    (Splitter.quoting_run _ _).trans hclosed
  have hstep : (Splitter.start.run first).step '|' =
      ⟨.bare, [], pipe :: (Splitter.start.run first).flushed⟩ := by
    rw [Splitter.step, if_pos ⟨hbare, rfl⟩]
  rw [tokenize_eq_ok hclosed] at h
  rw [tokenize_eq_finish, Splitter.run_append]
  change (((Splitter.start.run first).step '|').run rest).finish = _
  rw [hstep, Splitter.finish_run_of_tokens, List.reverse_cons, Except.ok.inj h]
  simp only [List.append_assoc, List.singleton_append]

/-- A line that is split into some tokens is not blank. -/
theorem not_isBlankText_of_tokenize (h : tokenize first = .ok tokens) (hne : tokens ≠ []) :
    ¬Text.IsBlankText first := by
  intro hblank
  rw [← tokenize_trim, trim_eq_nil_iff.mpr hblank, tokenize_nil] at h
  exact hne (Except.ok.inj h).symm

/-- A line that is split into some tokens makes the pipeline of their items, unless it is an
assignment. -/
theorem parse_eq_pipelineOfItems (env : Environment) {line : String}
    (h : tokenize line.toList = .ok tokens) (hne : tokens ≠ [])
    (hassignment : ∀ token, tokens = [token] → assignment? token = none) :
    parse env line = pipelineOfItems (tokens.flatMap (itemsOf env)) := by
  obtain ⟨words, hwords, hitems⟩ := items_expandedWords env
    fun token hmem => isClosed_of_mem_tokenize h hmem
  rw [parse_eq_statementOf env (not_isBlankText_of_tokenize h hne) h,
    statementOf_eq env hassignment, hwords, ← hitems]
  exact pipelineOf_eq words

end CommandShell.Line
