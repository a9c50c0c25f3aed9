import CommandShell.Proofs.Line.Grammar

/-!
# Expanding a line part by part

Where a text is closed and what comes next cannot go on with a name, the two are expanded as if each
stood alone (`expand_append`): no reference reaches from one into the other, and no value can change
what quotes mean in the other. At the ends of tokens this is the case, since a token is followed by
a blank, by a bar or by nothing (`expand_append_of_endsWord`).

So it makes no difference whether a line is split first, and its tokens expanded and split again, or
expanded as a whole and split then (`tokenize_expand_eq_flatten`).
-/

namespace CommandShell.Line

/-! ## Expanding texts one behind the other -/

/-- No reference reaches into a text that does not go on with a name. -/
theorem piecesFrom_append (q : Quoting) {passed : Nat} {as bs : List Char}
    (hpassed : passed ≤ as.length) (h : ∀ c ∈ bs.head?, c ≠ '?' ∧ Text.isNameChar c = false) :
    piecesFrom q passed (as ++ bs) =
      piecesFrom q passed as ++ piecesFrom (q.run (as.drop passed)) 0 bs := by
  induction as generalizing q passed with
  | nil =>
    obtain rfl : passed = 0 := Nat.le_zero.mp hpassed
    rfl
  | cons a as ih =>
    cases passed with
    | succ passed =>
      -- This character belongs to a name that has been taken already.
      exact ih q (Nat.le_of_succ_le_succ hpassed)
    | zero =>
      rw [List.cons_append, piecesFrom, piecesFrom, nameAfter_append as h]
      split_ifs with href
      · -- The name is among the characters of the first text.
        obtain ⟨rfl, hq, -⟩ := href
        have hname : (nameAfter as).length ≤ as.length := by
          rw [← take_length_nameAfter]
          exact List.length_take_le' _ _
        rw [ih q hname, Quoting.run_drop_nameAfter hq, List.drop_zero, Quoting.run_cons,
          Quoting.step_of_admits hq (.inl rfl), List.cons_append]
      · rw [ih (q.step a) (Nat.zero_le _), List.drop_zero, List.drop_zero, Quoting.run_cons,
          List.cons_append]

/-- Behind a closed text, a text that does not go on with a name is expanded as if it stood
alone. -/
theorem expand_append (env : Environment) {as bs : List Char} (has : IsClosed as)
    (h : ∀ c ∈ bs.head?, c ≠ '?' ∧ Text.isNameChar c = false) :
    expand env (as ++ bs) = expand env as ++ expand env bs := by
  have hclosed : Quoting.bare.run as = .bare := has
  simp only [expand_eq_expandFrom, expandFrom]
  rw [piecesFrom_append .bare (Nat.zero_le _) h, List.drop_zero, hclosed, List.flatMap_append]

/-- Where a reference may begin, `$?` is replaced by the value of the status variable, whatever
stands before it and behind it. -/
theorem expand_status (env : Environment) {front : List Char}
    (h : (Quoting.bare.run front).admits = true) (back : List Char) :
    expand env (front ++ '$' :: '?' :: back) =
      expand env front ++
        guardedValue (Quoting.bare.run front != .bare)
          (env.get Environment.statusName).toList ++
        expandFrom env (Quoting.bare.run front) 0 back := by
  have hdollar : ∀ c ∈ ('$' :: '?' :: back).head?, c ≠ '?' ∧ Text.isNameChar c = false := by
    intro c hc
    obtain rfl : '$' = c := Option.some.inj hc
    decide
  have hname : nameAfter ('?' :: back) = ['?'] := by rw [nameAfter, if_pos rfl]
  simp only [expand_eq_expandFrom, expandFrom]
  rw [piecesFrom_append .bare (Nat.zero_le _) hdollar, List.drop_zero, List.flatMap_append,
    List.append_assoc]
  -- Behind the dollar the name is taken, which is a single character.
  rw [piecesFrom, hname, if_pos ⟨rfl, h, List.cons_ne_nil _ _⟩]
  rfl

/-- A blank or a bar does not go on with a name. -/
theorem EndsWord.ends_name {cs : List Char} (h : EndsWord cs) :
    ∀ c ∈ cs.head?, c ≠ '?' ∧ Text.isNameChar c = false := by
  intro c hc
  rcases h c hc with rfl | hblank
  · decide
  · refine ⟨?_, ?_⟩
    · rintro rfl
      exact absurd hblank (by decide)
    · by_contra hname
      rw [Text.isBlank_of_isNameChar (by simpa using hname)] at hblank
      cases hblank

theorem expand_append_of_endsWord (env : Environment) {as bs : List Char} (has : IsClosed as)
    (hbs : EndsWord bs) : expand env (as ++ bs) = expand env as ++ expand env bs :=
  expand_append env has hbs.ends_name

/-- A character other than `$` stays in front of the expansion. -/
theorem expandFrom_cons (env : Environment) (q : Quoting) {c : Char} (hc : c ≠ '$')
    (rest : List Char) :
    expandFrom env q 0 (c :: rest) = c :: expandFrom env (q.step c) 0 rest := by
  rw [expandFrom, piecesFrom, if_neg fun href => hc href.1]
  rfl

/-- A text without a `$` stands in front of the expansion of what comes behind it. -/
theorem expandFrom_append_of_not_mem (env : Environment) (q : Quoting) {as : List Char}
    (h : '$' ∉ as) (bs : List Char) :
    expandFrom env q 0 (as ++ bs) = as ++ expandFrom env (q.run as) 0 bs := by
  induction as generalizing q with
  | nil => rfl
  | cons a as ih =>
    obtain ⟨ha, has⟩ := not_or.mp (mt List.mem_cons.mpr h)
    rw [List.cons_append, expandFrom_cons env q (Ne.symm ha), ih _ has, Quoting.run_cons,
      List.cons_append]

/-- So do blanks, which leave nothing open. -/
theorem expand_blank_append (env : Environment) {gap : List Char} (h : Text.IsBlankText gap)
    (rest : List Char) : expand env (gap ++ rest) = gap ++ expand env rest := by
  have hdollar : '$' ∉ gap := fun hmem => absurd (h '$' hmem) (by decide)
  have hclosed : Quoting.bare.run gap = .bare := isClosed_of_tokenize (tokenize_of_isBlankText h)
  simp only [expand_eq_expandFrom]
  rw [expandFrom_append_of_not_mem env .bare hdollar, hclosed]

/-- A text that ends words still does so when it is expanded: it begins with the same character. -/
theorem EndsWord.expand {cs : List Char} (h : EndsWord cs) (env : Environment) :
    EndsWord (expand env cs) := by
  cases cs with
  | nil => exact h
  | cons c rest =>
    have hdollar : c ≠ '$' := by
      rintro rfl
      exact absurd (h '$' rfl) (by decide)
    rw [expand_eq_expandFrom, expandFrom_cons env .bare hdollar]
    exact fun d hd => h d hd

/-! ## Lines -/

/-- The parts to which the tokens of a line expand are, one behind the other, what the line expands
to. -/
theorem Layout.tokenize_expand (env : Environment) {afterWord : Bool} {line : List Char}
    {tokens : List Token} (h : Layout afterWord line tokens) :
    ∃ parts : List (List Token),
      List.Forall₂ (fun token words => tokenize (expand env token) = .ok words) tokens parts ∧
        tokenize (expand env line) = .ok parts.flatten := by
  induction h with
  | @finish afterWord gap hgap =>
    refine ⟨[], .nil, ?_⟩
    -- Blanks stay as they are, and make no words.
    have hexpand := expand_blank_append env hgap []
    rw [List.append_nil] at hexpand
    rw [hexpand]
    exact (tokenize_blank_append hgap _).trans rfl
  | @bar afterWord gap line tokens hgap rest ih =>
    obtain ⟨parts, hparts, hline⟩ := ih
    refine ⟨[pipe] :: parts, .cons rfl hparts, ?_⟩
    -- A bar ends whatever stands before it, and is itself no part of a reference.
    have hbar : expand env ('|' :: line) = '|' :: expand env line := by
      simp only [expand_eq_expandFrom]
      exact expandFrom_cons env .bare (by decide) line
    have hsplit := tokenize_append_bar (tokenize_of_isBlankText hgap) (expand env line)
    rw [expand_blank_append env hgap, hbar, hsplit, hline]
    rfl
  | @word afterWord gap word line tokens hgap _ hword rest ih =>
    obtain ⟨parts, hparts, hline⟩ := ih
    -- The word closes its quotes, so that it has parts, and these are closed as well.
    have hclosed : IsClosed word := hword.isSolid.2
    obtain ⟨words, hwords⟩ := exists_tokenize_eq_ok ((isClosed_expand_iff env word).mpr hclosed)
    refine ⟨words :: parts, .cons hwords hparts, ?_⟩
    rw [List.append_assoc, expand_blank_append env hgap, tokenize_blank_append hgap,
      expand_append_of_endsWord env hclosed rest.endsWord,
      tokenize_append_of_endsWord hwords (rest.endsWord.expand env), hline]
    rfl

theorem expandedWords_of_forall₂ {env : Environment} {tokens : List Token}
    {parts : List (List Token)}
    (h : List.Forall₂ (fun token words => tokenize (expand env token) = .ok words) tokens parts) :
    expandedWords env tokens = .ok parts.flatten := by
  induction h with
  | nil => rfl
  | cons hfirst _ ih =>
    rw [expandedWords, hfirst, ih]
    rfl

/-- A line that is no assignment makes a pipeline of the words of its expansion. -/
theorem parse_eq_pipelineOf_expand (env : Environment) {line : String} {tokens : List Token}
    (hblank : ¬Text.IsBlankText line.toList) (htokens : tokenize line.toList = .ok tokens)
    (hassignment : ∀ token, tokens = [token] → assignment? token = none) :
    parse env line = tokenize (expand env line.toList) >>= pipelineOf := by
  obtain ⟨parts, hparts, hline⟩ := (tokenize_eq_ok_iff_layout.mp htokens).tokenize_expand env
  rw [parse_eq_statementOf env hblank htokens, statementOf_eq env hassignment,
    expandedWords_of_forall₂ hparts, hline]

/-- To split a line before its tokens are expanded loses nothing: the expansion of a line that can
be split can be split too, and into the words of the expansions of its tokens, in their order. These
are the words of which the line makes commands. -/
theorem tokenize_expand_eq_flatten (env : Environment) {line : List Char} {tokens : List Token}
    (h : tokenize line = .ok tokens) :
    ∃ parts : List (List Token),
      List.Forall₂ (fun token words => tokenize (expand env token) = .ok words) tokens parts ∧
        tokenize (expand env line) = .ok parts.flatten ∧
          expandedWords env tokens = .ok parts.flatten := by
  obtain ⟨parts, hparts, hline⟩ := (tokenize_eq_ok_iff_layout.mp h).tokenize_expand env
  exact ⟨parts, hparts, hline, expandedWords_of_forall₂ hparts⟩

/-- References at the ends of tokens, with values that have quotes, blanks, bars and dollars in
them: next to a bar without blanks, at the end of a word and behind a quote. -/
theorem expansion_of_values_at_token_ends :
    let env := (Environment.initial.set "x" "it's|b $y").set "y" "\"c"
    let line := "a$x|'$x'$y \"$x\"d".toList
    let tokens := ["a$x".toList, pipe, "'$x'$y".toList, "\"$x\"d".toList]
    tokenize line = .ok tokens ∧
      tokenize (expand env line) = expandedWords env tokens ∧
      tokenize (expand env line) = .ok ["ait\"'\"s".toList, pipe, "b".toList, "$y".toList, pipe,
        "'$x''\"'c".toList, "\"it's|b \\$y\"d".toList] := by
  intro env line tokens
  have hline : tokenize line = .ok tokens := by decide
  obtain ⟨parts, -, hexpanded, hwords⟩ := tokenize_expand_eq_flatten env hline
  have hsplit : tokenize (expand env line) = .ok ["ait\"'\"s".toList, pipe, "b".toList, "$y".toList,
      pipe, "'$x''\"'c".toList, "\"it's|b \\$y\"d".toList] := by
    decide +kernel
  exact ⟨hline, hexpanded.trans hwords.symm, hsplit⟩

end CommandShell.Line
