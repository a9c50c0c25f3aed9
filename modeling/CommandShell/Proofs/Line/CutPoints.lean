import CommandShell.Proofs.Line.Parts

/-!
# Where a text may be cut

Splitting, expansion and quote removal each go over a text with loops of their own, and each of them
follows its quotes. Whatever of a text has been taken, the loop that goes on is the one for the
state in which `Quoting` is then (`loops_follow_quoting`):

* `Splitter.resume_append` for splitting;
* `Remover.resume_append` for quote removal;
* `resumeExpansion_eq` for expansion, as long as what comes next does not go on with a name.

So a text that can be split, which is one that closes its quotes, is for all of them a place to cut:
each treats what comes behind it as if that stood alone (`cut_behind_closed`).
-/

namespace CommandShell.Line

/-! ## Removing the quotes of two texts -/

namespace Remover

/-- What has been left before stays below what is left now. -/
theorem run_eq (r : Remover) (cs : List Char) :
    r.run cs = ⟨r.quoting.run cs, ((⟨r.quoting, []⟩ : Remover).run cs).text ++ r.text⟩ := by
  induction cs generalizing r with
  | nil => rfl
  | cons c cs ih =>
    -- One character leaves the same in front of nothing and in front of a text.
    have hstep : (⟨r.quoting, []⟩ : Remover).step c =
        ⟨r.quoting.step c, (left r.quoting c).reverse⟩ := by
      simp [step]
    change (r.step c).run cs = ⟨_, ((step ⟨r.quoting, []⟩ c).run cs).text ++ _⟩
    rw [ih, hstep, ih ⟨_, (left r.quoting c).reverse⟩]
    simp [step]

end Remover

/-- Behind a closed text, the quotes of a text are removed as if it stood alone. -/
theorem unquote_append {front : List Char} (h : IsClosed front) (rest : List Char) :
    unquote (front ++ rest) = unquote front ++ unquote rest := by
  have hbare : (Remover.start.run front).quoting = .bare := (Remover.quoting_run _ _).trans h
  rw [Remover.unquote_eq_of_isClosed h, unquote_eq_finish, Remover.run_append, Remover.run_eq,
    hbare]
  change Remover.finish ⟨_, (Remover.start.run rest).text ++ _⟩ = _
  -- Whether a backslash is left over at the end depends on the second text only.
  have hquoting : (Remover.start.run rest).quoting = Quoting.bare.run rest :=
    Remover.quoting_run _ _
  rw [unquote_eq_finish, Remover.finish, Remover.finish, hquoting]
  split
  · simp
  · simp

/-! ## The cut -/

/-- What is done with a result does not change with which error there is none. -/
theorem map_eq_error_iff {α β : Type} {f : α → β} {found : Except Error α} {e : Error} :
    found.map f = .error e ↔ found = .error e := by
  cases found with
  | error e' => simp [Except.map]
  | ok a => simp [Except.map]

/-- Wherever a text is cut, each of the three goes on behind the cut with its loop for the state of
the quotes there. -/
theorem loops_follow_quoting (env : Environment) (cs : List Char) :
    (∃ s : Splitter, s.quoting = Quoting.bare.run cs ∧
        ∀ rest, tokenize (cs ++ rest) = s.resume rest) ∧
      (∃ r : Remover, r.quoting = Quoting.bare.run cs ∧
        ∀ rest, unquote (cs ++ rest) = r.resume rest) ∧
      ∃ out, ∀ rest, (∀ c ∈ rest.head?, c ≠ '?' ∧ Text.isNameChar c = false) →
        expand env (cs ++ rest) = resumeExpansion env (Quoting.bare.run cs) out rest := by
  refine ⟨⟨_, Splitter.quoting_run .start cs, fun rest => ?_⟩,
    ⟨_, Remover.quoting_run .start cs, fun rest => ?_⟩,
    (expandFrom env .bare 0 cs).reverse, fun rest hrest => ?_⟩
  · exact Splitter.start.resume_append cs rest
  · exact Remover.start.resume_append cs rest
  · rw [resumeExpansion_eq, List.reverse_reverse, expand_eq_expandFrom, expandFrom,
      piecesFrom_append .bare (Nat.zero_le _) hrest, List.drop_zero, List.flatMap_append]
    rfl

/-- A text that can be split is a place to cut, for splitting, expansion and quote removal alike.

Each of the three goes on behind any cut with its loop for the state of the quotes there. Behind a
text that can be split that is the loop outside quotes, so that what comes next is treated as if it
stood alone: its quotes are removed apart, and it is expanded apart if it does not go on with a
name, while the expansion of the first text can be split again. A blank or a bar between the two has
them split apart, and what is wrong with the second one is all that can be wrong. -/
theorem cut_behind_closed {front : List Char} {tokens : List Token}
    (h : tokenize front = .ok tokens) (env : Environment) (rest : List Char) :
    (∀ cs,
        (∃ s : Splitter, s.quoting = Quoting.bare.run cs ∧
          ∀ rest, tokenize (cs ++ rest) = s.resume rest) ∧
        (∃ r : Remover, r.quoting = Quoting.bare.run cs ∧
          ∀ rest, unquote (cs ++ rest) = r.resume rest) ∧
        ∃ out, ∀ rest, (∀ c ∈ rest.head?, c ≠ '?' ∧ Text.isNameChar c = false) →
          expand env (cs ++ rest) = resumeExpansion env (Quoting.bare.run cs) out rest) ∧
      Quoting.bare.run front = .bare ∧
      unquote (front ++ rest) = unquote front ++ unquote rest ∧
      ((∀ c ∈ rest.head?, c ≠ '?' ∧ Text.isNameChar c = false) →
        expand env (front ++ rest) = expand env front ++ expand env rest) ∧
      (∃ words, tokenize (expand env front) = .ok words) ∧
      tokenize (front ++ ' ' :: rest) = (tokenize rest).map (tokens ++ ·) ∧
      tokenize (front ++ '|' :: rest) = (tokenize rest).map (tokens ++ pipe :: ·) ∧
      ∀ e, (tokenize (front ++ ' ' :: rest) = .error e ↔ tokenize rest = .error e) ∧
        (tokenize (front ++ '|' :: rest) = .error e ↔ tokenize rest = .error e) := by
  have hclosed : IsClosed front := isClosed_of_tokenize h
  have hblank := tokenize_append_blank h (show Text.isBlank ' ' = true by decide) rest
  have hbar := tokenize_append_bar h rest
  have hexpanded := (isClosed_expand_iff env front).mpr hclosed
  refine ⟨loops_follow_quoting env, hclosed, unquote_append hclosed rest, ?_, ?_, hblank, hbar,
    fun e => ⟨?_, ?_⟩⟩
  · intro hrest
    exact expand_append env hclosed hrest
  · exact exists_tokenize_eq_ok hexpanded
  · rw [hblank, map_eq_error_iff]
  · rw [hbar, map_eq_error_iff]

/-- The second text begins right behind a reference, and leaves a quote open. It is expanded and has
its quotes removed as if it stood alone, and behind a bar it is refused as if it stood alone. -/
theorem cut_between_reference_and_open_quote :
    let env := Environment.initial.set "x" "it's \"|"
    let front := "\"a$x\\\"\" 'b|'$x".toList
    let rest := "-$x' c".toList
    (tokenize front = .ok ["\"a$x\\\"\"".toList, "'b|'$x".toList] ∧
        ∀ c ∈ rest.head?, c ≠ '?' ∧ Text.isNameChar c = false) ∧
      unquote (front ++ rest) = "a$x\" b|$x".toList ++ "-$x c".toList ∧
      expand env (front ++ rest) =
        "\"ait's \\\"|\\\"\" 'b|'it\"'\"s '\"'|".toList ++ "-it\"'\"s '\"'|' c".toList ∧
      expand env front = "\"ait's \\\"|\\\"\" 'b|'it\"'\"s '\"'|".toList ∧
      expand env rest = "-it\"'\"s '\"'|' c".toList ∧
      tokenize (front ++ '|' :: rest) = .error (unclosed '\'') := by
  intro env front rest
  have hfront : tokenize front = .ok ["\"a$x\\\"\"".toList, "'b|'$x".toList] := by
    decide +kernel
  have hrest : ∀ c ∈ rest.head?, c ≠ '?' ∧ Text.isNameChar c = false := by
    intro c hc
    obtain rfl : '-' = c := Option.some.inj hc
    decide
  have hopen : tokenize rest = .error (unclosed '\'') := by decide +kernel
  have hexpandFront : expand env front =
      "\"ait's \\\"|\\\"\" 'b|'it\"'\"s '\"'|".toList := by decide +kernel
  have hexpandRest : expand env rest = "-it\"'\"s '\"'|' c".toList := by decide +kernel
  obtain ⟨-, -, hunquote, hexpand, -, -, -, herror⟩ := cut_behind_closed hfront env rest
  refine ⟨⟨hfront, hrest⟩, hunquote.trans ?_, ?_, hexpandFront, hexpandRest,
    (herror _).2.mpr hopen⟩
  · decide +kernel
  · rw [hexpand hrest, hexpandFront, hexpandRest]

end CommandShell.Line
