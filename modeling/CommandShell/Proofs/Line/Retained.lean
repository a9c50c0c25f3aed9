import CommandShell.Proofs.Line.Faults
import CommandShell.Proofs.Line.Joining

/-!
# Characters that are never lost

Reading a line takes some of its characters away: blanks and bars between words, quotes,
backslashes, and the names of variables. A character that is none of these is plain. Wherever it
stands on a line, in quotes or not, it stays in a word of one of the commands
(`mem_words_of_parse`).

The character is followed through the steps of reading: it is in a token (`mem_token_of_tokenize`),
leaves a mark (`mark_of_mem`), is divided into a word (`mem_word_of_divide`), and the word is one of
a command (`mem_words_of_pipelineOfItems`).
-/

namespace CommandShell.Line

/-- The character separates and quotes nothing, and belongs to no reference. -/
def IsPlain (c : Char) : Prop :=
  Text.isBlank c = false ∧ Text.isNameChar c = false ∧ c ∉ ['|', '\'', '"', '\\', '$', '?']

instance : DecidablePred IsPlain := fun c =>
  inferInstanceAs (Decidable (Text.isBlank c = false ∧ Text.isNameChar c = false ∧
    c ∉ ['|', '\'', '"', '\\', '$', '?']))

theorem IsPlain.ne {c d : Char} (h : IsPlain c) (hd : d ∈ ['|', '\'', '"', '\\', '$', '?']) :
    c ≠ d := by
  rintro rfl
  exact h.2.2 hd

/-! ## Tokens -/

namespace Splitter

/-- The character is in one of the tokens, the one being collected included. -/
def Holds (s : Splitter) (c : Char) : Prop :=
  ∃ token ∈ s.flushed, c ∈ token

/-- What is held stays, and a character that separates nothing is held from now on. -/
theorem Holds.step {s : Splitter} {c d : Char} (hblank : Text.isBlank c = false) (hbar : c ≠ '|')
    (h : c = d ∨ s.Holds c) : (s.step d).Holds c := by
  unfold Splitter.step
  split_ifs with hpipe hsep
  · -- Before the bar, the current token is finished.
    obtain ⟨token, htoken, hc⟩ := h.resolve_left fun heq => hbar (heq.trans hpipe.2)
    exact ⟨token, List.mem_cons_of_mem pipe htoken, hc⟩
  · refine h.resolve_left fun heq => ?_
    rw [heq, hsep.2] at hblank
    cases hblank
  · have hflushed : flushed ⟨s.quoting.step d, d :: s.current, s.tokens⟩ =
        (d :: s.current).reverse :: s.tokens := rfl
    rw [Holds, hflushed]
    rcases h with rfl | ⟨token, htoken, hc⟩
    · exact ⟨_, List.mem_cons_self, List.mem_reverse.mpr List.mem_cons_self⟩
    · unfold flushed at htoken
      split at htoken
      · exact ⟨token, List.mem_cons_of_mem _ htoken, hc⟩
      · rcases List.mem_cons.mp htoken with rfl | htoken
        · -- The token being collected has become longer.
          refine ⟨_, List.mem_cons_self, ?_⟩
          rw [List.mem_reverse] at hc ⊢
          exact List.mem_cons_of_mem d hc
        · exact ⟨token, List.mem_cons_of_mem _ htoken, hc⟩

theorem Holds.run {s : Splitter} {c : Char} (hblank : Text.isBlank c = false) (hbar : c ≠ '|')
    {cs : List Char} (h : c ∈ cs ∨ s.Holds c) : (s.run cs).Holds c := by
  induction cs generalizing s with
  | nil => exact h.resolve_left List.not_mem_nil
  | cons d cs ih =>
    rw [List.mem_cons, or_assoc] at h
    rcases h with heq | hmem | hholds
    · exact ih (.inr (Holds.step hblank hbar (.inl heq)))
    · exact ih (.inl hmem)
    · exact ih (.inr (Holds.step hblank hbar (.inr hholds)))

end Splitter

/-- A character that separates nothing is in one of the tokens. -/
theorem mem_token_of_tokenize {cs : List Char} {tokens : List Token} (h : tokenize cs = .ok tokens)
    {c : Char} (hblank : Text.isBlank c = false) (hbar : c ≠ '|') (hc : c ∈ cs) :
    ∃ token ∈ tokens, c ∈ token := by
  obtain ⟨token, htoken, hmem⟩ :=
    Splitter.Holds.run (s := .start) hblank hbar (.inl hc)
  rw [tokenize_eq_ok (isClosed_of_tokenize h)] at h
  rw [← Except.ok.inj h]
  exact ⟨token, List.mem_reverse.mpr htoken, hmem⟩

/-! ## Marks -/

/-- A plain character leaves its own mark, wherever it stands. -/
theorem IsPlain.mark_mem_ofChar {c : Char} (hc : IsPlain c) (q : Quoting) :
    Mark.active c ∈ Mark.ofChar q c ∨ Mark.inert c ∈ Mark.ofChar q c := by
  have hname : ∀ d, Text.isNameChar d = true → c ≠ d := by
    rintro d hd rfl
    rw [hc.2.1] at hd
    cases hd
  have hsingle := hc.ne (d := '\'') (by decide)
  have hdouble := hc.ne (d := '"') (by decide)
  have hbackslash := hc.ne (d := '\\') (by decide)
  have hdollar := hc.ne (d := '$') (by decide)
  cases q with
  | bare => exact .inl (by simp [Mark.ofChar, hsingle, hdouble])
  | single => exact .inr (by simp [Mark.ofChar, hsingle])
  | double => exact .inr (by simp [Mark.ofChar, hdouble, hbackslash])
  | escape =>
    -- It is none of the letters that stand for something else behind a backslash.
    have hn := hname 'n' (by decide)
    have ht := hname 't' (by decide)
    exact .inr (by simp [Mark.ofChar, hn, ht, hdouble, hbackslash, hdollar])

/-- A plain character that has not been taken as part of a name leaves its mark. -/
theorem mark_of_mem (env : Environment) {c : Char} (hc : IsPlain c) (q : Quoting) {passed : Nat}
    {cs : List Char} (h : c ∈ cs.drop passed) :
    ∃ m ∈ marked env q passed cs, m = .active c ∨ m = .inert c := by
  induction cs generalizing q passed with
  | nil => simp at h
  | cons d rest ih =>
    cases passed with
    | succ passed => exact ih q h
    | zero =>
      rw [List.drop_zero, List.mem_cons] at h
      rw [marked]
      split_ifs with href
      · -- A reference takes the `$` and the characters of its name, which are not plain.
        have hrest : c ∈ rest := h.resolve_left fun heq =>
          hc.ne (d := '$') (by decide) (heq.trans href.1)
        rw [← List.take_append_drop (nameAfter rest).length rest, take_length_nameAfter,
          List.mem_append] at hrest
        have hdrop : c ∈ rest.drop (nameAfter rest).length := by
          refine hrest.resolve_left fun hname => ?_
          rcases mem_nameAfter hname with hquestion | hchar
          · exact hc.ne (by decide) hquestion
          · rw [hc.2.1] at hchar
            cases hchar
        obtain ⟨m, hm, heq⟩ := ih q hdrop
        exact ⟨m, List.mem_append_right _ hm, heq⟩
      · rcases h with rfl | hrest
        · rcases hc.mark_mem_ofChar q with hm | hm
          · exact ⟨_, List.mem_append_left _ hm, .inl rfl⟩
          · exact ⟨_, List.mem_append_left _ hm, .inr rfl⟩
        · obtain ⟨m, hm, heq⟩ := ih (q.step d) (show c ∈ rest.drop 0 from hrest)
          exact ⟨m, List.mem_append_right _ hm, heq⟩

/-! ## Words -/

/-- A character that has been collected is in the word that is finished next. -/
theorem mem_ofWord? {c : Char} {word : Option (List Char)} (h : c ∈ word.getD []) :
    ∃ text, Item.word text ∈ Item.ofWord? word ∧ c ∈ text := by
  cases word with
  | none => simp at h
  | some text => exact ⟨text, List.mem_singleton.mpr rfl, h⟩

/-- What is collected or marked is divided into a word, if it separates nothing. -/
theorem mem_word_of_divide {c : Char} (hblank : Text.isBlank c = false) (hbar : c ≠ '|')
    {word : Option (List Char)} {ms : List Mark}
    (h : c ∈ word.getD [] ∨ ∃ m ∈ ms, m = .active c ∨ m = .inert c) :
    ∃ text, Item.word text ∈ divide word ms ∧ c ∈ text := by
  induction ms generalizing word with
  | nil => exact mem_ofWord? (h.resolve_right (by simp))
  | cons m rest ih =>
    simp only [List.mem_cons, exists_eq_or_imp] at h
    cases m with
    | opening =>
      rw [divide]
      apply ih
      rcases h with h | h | h
      · exact .inl h
      · simp at h
      · exact .inr h
    | inert d =>
      rw [divide]
      apply ih
      rcases h with h | h | h
      · exact .inl (List.mem_append_left _ h)
      · obtain rfl : d = c := by simpa using h
        exact .inl (List.mem_append_right _ (List.mem_singleton.mpr rfl))
      · exact .inr h
    | active d =>
      rw [divide]
      by_cases hd : d = c
      · -- The character itself is collected, since it is no bar and no blank.
        subst hd
        rw [if_neg hbar, if_neg (by rw [hblank]; exact Bool.false_ne_true)]
        exact ih (.inl (List.mem_append_right _ (List.mem_singleton.mpr rfl)))
      have hothers : c ∈ word.getD [] ∨ ∃ m ∈ rest, m = .active c ∨ m = .inert c := by
        simpa [hd] using h
      -- A bar and a blank finish the word that has been collected; any other character is added.
      split_ifs
      · rcases hothers with h | h
        · obtain ⟨text, htext, hc⟩ := mem_ofWord? h
          exact ⟨text, List.mem_append_left _ htext, hc⟩
        · obtain ⟨text, htext, hc⟩ := @ih none (.inr h)
          exact ⟨text, List.mem_append_right _ (List.mem_cons_of_mem _ htext), hc⟩
      · rcases hothers with h | h
        · obtain ⟨text, htext, hc⟩ := mem_ofWord? h
          exact ⟨text, List.mem_append_left _ htext, hc⟩
        · obtain ⟨text, htext, hc⟩ := @ih none (.inr h)
          exact ⟨text, List.mem_append_right _ htext, hc⟩
      · exact ih (hothers.imp_left (List.mem_append_left _))

/-! ## Commands -/

theorem betweenBars_ne_nil (items : List Item) : betweenBars items ≠ [] := by
  induction items with
  | nil => exact List.cons_ne_nil _ _
  | cons item rest ih =>
    cases item with
    | bar => exact List.cons_ne_nil _ _
    | word text =>
      rw [betweenBars]
      obtain ⟨stage, others, hbetween⟩ := List.exists_cons_of_ne_nil ih
      rw [hbetween]
      exact List.cons_ne_nil _ _

/-- Each word stands between two bars. -/
theorem mem_betweenBars {text : List Char} {items : List Item} (h : Item.word text ∈ items) :
    ∃ stage ∈ betweenBars items, text ∈ stage := by
  induction items with
  | nil => exact absurd h List.not_mem_nil
  | cons item rest ih =>
    cases item with
    | bar =>
      obtain ⟨stage, hstage, htext⟩ := ih ((List.mem_cons.mp h).resolve_left nofun)
      exact ⟨stage, List.mem_cons_of_mem _ hstage, htext⟩
    | word first =>
      -- The first word is added to the first stage of the others.
      rw [betweenBars]
      obtain ⟨head, others, hbetween⟩ := List.exists_cons_of_ne_nil (betweenBars_ne_nil rest)
      rw [hbetween, List.modifyHead_cons]
      rcases List.mem_cons.mp h with heq | hmem
      · obtain rfl : text = first := Item.word.inj heq
        exact ⟨_, List.mem_cons_self, List.mem_cons_self⟩
      · obtain ⟨stage, hstage, htext⟩ := ih hmem
        rw [hbetween] at hstage
        rcases List.mem_cons.mp hstage with rfl | hstage
        · exact ⟨_, List.mem_cons_self, List.mem_cons_of_mem first htext⟩
        · exact ⟨stage, List.mem_cons_of_mem _ hstage, htext⟩

theorem words_of_commandOfTexts {stage : List (List Char)} {command : Command}
    (h : commandOfTexts stage = .ok command) : command.words = stage.map String.ofList := by
  cases stage with
  | nil => cases h
  | cons name args =>
    cases h
    rfl

/-- Each stage has its command. -/
theorem mem_of_mapM_commandOfTexts {stages : List (List (List Char))} {commands : List Command}
    (h : stages.mapM commandOfTexts = .ok commands) {stage : List (List Char)}
    (hstage : stage ∈ stages) :
    ∃ command ∈ commands, command.words = stage.map String.ofList := by
  induction stages generalizing commands with
  | nil => exact absurd hstage List.not_mem_nil
  | cons first rest ih =>
    rw [List.mapM_cons] at h
    cases hfirst : commandOfTexts first with
    | error e =>
      rw [hfirst] at h
      cases h
    | ok command =>
      cases hrest : rest.mapM commandOfTexts with
      | error e =>
        rw [hfirst, hrest] at h
        cases h
      | ok others =>
        rw [hfirst, hrest] at h
        cases h
        rcases List.mem_cons.mp hstage with rfl | hmem
        · exact ⟨command, List.mem_cons_self, words_of_commandOfTexts hfirst⟩
        · obtain ⟨other, hother, hwords⟩ := ih hrest hmem
          exact ⟨other, List.mem_cons_of_mem command hother, hwords⟩

/-- Each word is one of a command. -/
theorem mem_words_of_pipelineOfItems {items : List Item} {commands : List Command}
    (h : pipelineOfItems items = .ok (.pipeline commands)) {text : List Char}
    (htext : Item.word text ∈ items) :
    ∃ command ∈ commands, String.ofList text ∈ command.words := by
  rw [pipelineOfItems, if_neg (List.ne_nil_of_mem htext)] at h
  obtain ⟨stage, hstage, hmem⟩ := mem_betweenBars htext
  cases hcommands : (betweenBars items).mapM commandOfTexts with
  | error e =>
    rw [hcommands] at h
    cases h
  | ok found =>
    rw [hcommands] at h
    cases h
    obtain ⟨command, hcommand, hwords⟩ := mem_of_mapM_commandOfTexts hcommands hstage
    refine ⟨command, hcommand, ?_⟩
    rw [hwords]
    exact List.mem_map_of_mem hmem

/-- A plain character of a line that names commands is in a word of one of them. -/
theorem mem_words_of_parse {env : Environment} {line : String} {commands : List Command}
    (h : parse env line = .ok (.pipeline commands)) {c : Char} (hc : IsPlain c)
    (hmem : c ∈ line.toList) :
    ∃ command ∈ commands, ∃ word ∈ command.words, c ∈ word.toList := by
  have hblank : ¬Text.IsBlankText line.toList := by
    intro hline
    have hblank := hline c hmem
    rw [hc.1] at hblank
    cases hblank
  cases htokens : tokenize line.toList with
  | error e =>
    rw [parse_of_tokenize_eq_error env hblank htokens] at h
    cases h
  | ok tokens =>
    obtain ⟨token, htoken, hctoken⟩ :=
      mem_token_of_tokenize htokens hc.1 (hc.ne (by decide)) hmem
    -- The line is no assignment, since that would not be a pipeline.
    have hassignment : ∀ token, tokens = [token] → assignment? token = none := by
      rintro single rfl
      rw [parse_eq_statementOf env hblank htokens, statementOf] at h
      cases hsome : assignment? single with
      | none => rfl
      | some found =>
        rw [hsome] at h
        dsimp only [assign] at h
        split at h
        · cases h
        · cases h
    rw [parse_eq_pipelineOfItems env htokens (List.ne_nil_of_mem htoken) hassignment] at h
    have hmarked := mark_of_mem env hc .bare (show c ∈ token.drop 0 from hctoken)
    obtain ⟨text, htext, hctext⟩ : ∃ text, Item.word text ∈ itemsOf env token ∧ c ∈ text :=
      mem_word_of_divide hc.1 (hc.ne (by decide)) (.inr hmarked)
    obtain ⟨command, hcommand, hword⟩ :=
      mem_words_of_pipelineOfItems h (List.mem_flatMap.mpr ⟨token, htoken, htext⟩)
    refine ⟨command, hcommand, _, hword, ?_⟩
    rwa [String.toList_ofList]

end CommandShell.Line
