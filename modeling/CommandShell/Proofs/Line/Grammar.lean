import CommandShell.Proofs.Line.Assignment

/-!
# The grammar of lines

What a line has to look like to be split, and into what. A word is a sequence of fragments: single
characters outside quotes, and text in quotes (`IsFragment`, `IsWord`). A line consists of words and
bars with blanks between them (`Layout`); only between two words is there always a blank. Such a
line is split into just these words and bars, as they are written, and any other line is one that
opens a quote behind such a beginning and does not close it (`LeavesOpen`).

Both are parts of `tokenize_follows_grammar`, with what they come to for the tokens of a line: each
is a line by itself, and however blanks are put between them, they are split again as they were.
-/

namespace CommandShell.Line

/-! ## Words -/

/-- A part of a word: a character outside quotes that neither quotes nor separates words, or text in
quotes together with these. -/
inductive IsFragment : List Char → Prop
  /-- A character outside quotes. -/
  | plain {c : Char} (hblank : Text.isBlank c = false) (hbar : c ≠ '|')
      (hquote : c ≠ '\'' ∧ c ≠ '"') : IsFragment [c]
  /-- Text in single quotes, with no single quote in it. -/
  | single {text : List Char} (htext : '\'' ∉ text) : IsFragment ('\'' :: text ++ ['\''])
  /-- Text in double quotes, in which a backslash takes the next character with it. -/
  | double {text : List Char} (htext : IsDoubleText text) : IsFragment ('"' :: text ++ ['"'])

/-- A word: one or more fragments, one behind the other. -/
inductive IsWord : List Char → Prop
  /-- A single fragment. -/
  | fragment {part : List Char} (h : IsFragment part) : IsWord part
  /-- A fragment in front of a word. -/
  | append {part word : List Char} (h : IsFragment part) (rest : IsWord word) :
      IsWord (part ++ word)

/-- Text without single quotes stays within single quotes, where nothing separates words. -/
theorem isSolid_single {text : List Char} (h : '\'' ∉ text) :
    IsSolid .single text ∧ Quoting.single.run text = .single := by
  induction text with
  | nil => exact ⟨trivial, rfl⟩
  | cons c text ih =>
    obtain ⟨hquote, htext⟩ := not_or.mp (mt List.mem_cons.mpr h)
    have hstep : Quoting.single.step c = .single := if_neg (Ne.symm hquote)
    obtain ⟨hsolid, hrun⟩ := ih htext
    refine ⟨⟨fun hbare => absurd hbare (by decide), ?_⟩, ?_⟩
    · rw [hstep]
      exact hsolid
    · rw [Quoting.run_cons, hstep]
      exact hrun

namespace IsFragment

variable {part : List Char}

/-- A fragment has no blank and no bar outside its quotes, which are closed. -/
theorem isSolid (h : IsFragment part) : IsSolid .bare part ∧ IsClosed part := by
  cases h with
  | plain hblank hbar hquote =>
    exact ⟨⟨fun _ => ⟨hbar, hblank⟩, trivial⟩, Quoting.step_bare_of_ne hquote.1 hquote.2⟩
  | @single text htext =>
    obtain ⟨hsolid, hrun⟩ := isSolid_single htext
    refine ⟨⟨fun _ => by decide, hsolid.append ?_⟩, ?_⟩
    · rw [hrun]
      decide
    · change Quoting.single.run (text ++ ['\'']) = .bare
      rw [Quoting.run_append, hrun]
      rfl
  | double htext => exact htext.isSolid

theorem ne_nil (h : IsFragment part) : part ≠ [] := by
  cases h <;> simp

end IsFragment

namespace IsWord

variable {word : List Char}

theorem isSolid (h : IsWord word) : IsSolid .bare word ∧ IsClosed word := by
  induction h with
  | fragment h => exact h.isSolid
  | @append part word h _ ih =>
    obtain ⟨hsolid, hclosed⟩ := h.isSolid
    have hrun : Quoting.bare.run part = .bare := hclosed
    refine ⟨hsolid.append ?_, ?_⟩
    · rw [hrun]
      exact ih.1
    · rw [IsClosed, Quoting.run_append, hrun]
      exact ih.2

theorem ne_nil (h : IsWord word) : word ≠ [] := by
  cases h with
  | fragment h => exact h.ne_nil
  | append h _ => exact fun hnil => h.ne_nil (List.append_eq_nil_iff.mp hnil).1

/-- A word is a single token. -/
theorem tokenize_eq (h : IsWord word) : tokenize word = .ok [word] :=
  tokenize_of_isSolid h.ne_nil h.isSolid.1 h.isSolid.2

end IsWord

/-! ## Lines -/

/-- The line consists of the tokens in this order, each as it is written, with blanks around them. A
gap may be empty, but not between two words; `afterWord` says that a word stands before the line. -/
inductive Layout : (afterWord : Bool) → (line : List Char) → List Token → Prop
  /-- Nothing but blanks is left. -/
  | finish {afterWord : Bool} {gap : List Char} (hgap : Text.IsBlankText gap) :
      Layout afterWord gap []
  /-- A bar comes next. -/
  | bar {afterWord : Bool} {gap line : List Char} {tokens : List Token}
      (hgap : Text.IsBlankText gap) (rest : Layout false line tokens) :
      Layout afterWord (gap ++ '|' :: line) (pipe :: tokens)
  /-- A word comes next. -/
  | word {afterWord : Bool} {gap word line : List Char} {tokens : List Token}
      (hgap : Text.IsBlankText gap) (hapart : afterWord = true → gap ≠ []) (hword : IsWord word)
      (rest : Layout true line tokens) :
      Layout afterWord (gap ++ word ++ line) (word :: tokens)

/-- Behind a beginning that is laid out, a quote is opened and not closed. -/
inductive LeavesOpen : (line : List Char) → (quote : Char) → Prop
  /-- A single quote is open. -/
  | single {front text : List Char} {tokens : List Token} (hfront : Layout false front tokens)
      (htext : '\'' ∉ text) : LeavesOpen (front ++ '\'' :: text) '\''
  /-- A double quote is open. -/
  | double {front text : List Char} {tokens : List Token} (hfront : Layout false front tokens)
      (htext : IsDoubleText text) : LeavesOpen (front ++ '"' :: text) '"'
  /-- A double quote is open, and the line ends with a backslash that would take the next character
  with it. -/
  | backslash {front text : List Char} {tokens : List Token} (hfront : Layout false front tokens)
      (htext : IsDoubleText text) : LeavesOpen (front ++ '"' :: (text ++ ['\\'])) '"'

/-- The text consists of the tokens with blanks between them, at least one each time. -/
inductive Joined : List Token → (text : List Char) → Prop
  | nil : Joined [] []
  | single (token : Token) : Joined [token] token
  | cons {token next : Token} {rest : List Token} {gap text : List Char} (hne : gap ≠ [])
      (hgap : Text.IsBlankText gap) (h : Joined (next :: rest) text) :
      Joined (token :: next :: rest) (token ++ gap ++ text)

/-! ## A line that is laid out is split so -/

/-- A word in front of the text ends there: the text is empty or begins with a blank or a bar. -/
def EndsWord (cs : List Char) : Prop :=
  ∀ c ∈ cs.head?, c = '|' ∨ Text.isBlank c = true

/-- Blanks in front of a line do not matter. -/
theorem tokenize_blank_append {gap : List Char} (h : Text.IsBlankText gap) (rest : List Char) :
    tokenize (gap ++ rest) = tokenize rest := by
  have hdrop : (gap ++ rest).dropWhile Text.isBlank = rest.dropWhile Text.isBlank :=
    List.dropWhile_append_of_pos h
  rw [tokenize_eq_finish, ← Splitter.run_start_dropWhile, hdrop, Splitter.run_start_dropWhile,
    tokenize_eq_finish]

theorem tokenize_of_isBlankText {gap : List Char} (h : Text.IsBlankText gap) :
    tokenize gap = .ok [] := by
  have hgap := tokenize_blank_append h []
  rwa [List.append_nil] at hgap

/-- Where a text ends words, it is split as if it stood alone. -/
theorem tokenize_append_of_endsWord {first rest : List Char} {tokens : List Token}
    (h : tokenize first = .ok tokens) (hrest : EndsWord rest) :
    tokenize (first ++ rest) = (tokenize rest).map (tokens ++ ·) := by
  cases rest with
  | nil =>
    rw [List.append_nil, h, tokenize_nil]
    exact congrArg Except.ok (List.append_nil tokens).symm
  | cons c rest =>
    rcases hrest c rfl with rfl | hblank
    · -- A bar is a token of its own, here as well as in front of the rest alone.
      have halone := tokenize_append_bar tokenize_nil rest
      rw [List.nil_append] at halone
      rw [tokenize_append_bar h, halone]
      cases tokenize rest <;> rfl
    · have hgap : Text.IsBlankText [c] := List.forall_mem_singleton.mpr hblank
      rw [tokenize_append_blank h hblank, ← tokenize_blank_append hgap rest]
      rfl

/-- A word ends where a line that is laid out behind it begins. -/
theorem Layout.endsWord {line : List Char} {tokens : List Token} (h : Layout true line tokens) :
    EndsWord line := by
  -- A gap that is not empty begins with a blank.
  have hblank {gap : List Char} (hgap : Text.IsBlankText gap) (hne : gap ≠ []) (rest : List Char) :
      EndsWord (gap ++ rest) := by
    intro c hc
    cases gap with
    | nil => exact absurd rfl hne
    | cons d gap =>
      obtain rfl : d = c := Option.some.inj hc
      exact .inr (hgap d List.mem_cons_self)
  cases h with
  | finish hgap => exact fun c hc => .inr (hgap c (List.mem_of_mem_head? hc))
  | @bar _ gap line tokens hgap rest =>
    by_cases hne : gap = []
    · subst hne
      exact fun c hc => .inl (Option.some.inj hc).symm
    · exact hblank hgap hne _
  | word hgap hapart hword rest =>
    rw [List.append_assoc]
    exact hblank hgap (hapart rfl) _

/-- A line is split into the tokens of which it consists. -/
theorem Layout.tokenize_eq {afterWord : Bool} {line : List Char} {tokens : List Token}
    (h : Layout afterWord line tokens) : tokenize line = .ok tokens := by
  -- Each token is split off in front of what is laid out behind it, which ends it.
  induction h with
  | finish hgap => exact tokenize_of_isBlankText hgap
  | bar hgap rest ih =>
    rw [tokenize_append_bar (tokenize_of_isBlankText hgap), ih]
    rfl
  | word hgap hapart hword rest ih =>
    rw [List.append_assoc, tokenize_blank_append hgap,
      tokenize_append_of_endsWord hword.tokenize_eq rest.endsWord, ih]
    rfl

/-! ## A closed line is laid out -/

/-- A closed text begins with a fragment, unless it is empty or begins with a blank or a bar. -/
theorem exists_fragment {cs : List Char} (h : IsClosed cs) (hword : ¬EndsWord cs) :
    ∃ part rest, cs = part ++ rest ∧ IsFragment part ∧ IsClosed rest := by
  cases cs with
  | nil => exact absurd (fun c hc => by cases hc) hword
  | cons c cs =>
    have hc : c ≠ '|' ∧ Text.isBlank c = false := by
      rw [← Bool.not_eq_true, ← not_or]
      exact fun hc => hword fun d hd => (Option.some.inj hd) ▸ hc
    -- A quote is taken with everything up to its end, which is there since the text is closed.
    by_cases hsingle : c = '\''
    · subst hsingle
      obtain ⟨text, rest, rfl, htext, hrest⟩ := exists_single h
      exact ⟨'\'' :: text ++ ['\''], rest, by simp, .single htext, hrest⟩
    by_cases hdouble : c = '"'
    · subst hdouble
      obtain ⟨text, rest, rfl, htext, hrest⟩ := exists_double h
      exact ⟨'"' :: text ++ ['"'], rest, by simp, .double htext, hrest⟩
    · rw [IsClosed, Quoting.run_cons, Quoting.step_bare_of_ne hsingle hdouble] at h
      exact ⟨[c], cs, rfl, .plain hc.2 hc.1 ⟨hsingle, hdouble⟩, h⟩

/-- So it begins with a word, which reaches as far as it can. -/
theorem exists_word {cs : List Char} (h : IsClosed cs) (hword : ¬EndsWord cs) :
    ∃ word rest, cs = word ++ rest ∧ IsWord word ∧ EndsWord rest ∧ IsClosed rest := by
  -- The induction is on the length, since a fragment may have many characters.
  induction hn : cs.length using Nat.strongRecOn generalizing cs with
  | ind n ih =>
    obtain ⟨part, rest, rfl, hpart, hrest⟩ := exists_fragment h hword
    by_cases hends : EndsWord rest
    · exact ⟨part, rest, rfl, .fragment hpart, hends, hrest⟩
    · have hshorter : rest.length < n := by
        have hpos := List.length_pos_iff.mpr hpart.ne_nil
        rw [← hn, List.length_append]
        omega
      obtain ⟨word, rest', rfl, hword', hends', hrest'⟩ := ih rest.length hshorter hrest hends rfl
      exact ⟨part ++ word, rest', (List.append_assoc _ _ _).symm, .append hpart hword', hends',
        hrest'⟩

/-- A blank may be put in front of a line that is laid out, also behind a word. -/
theorem Layout.cons_blank {line : List Char} {tokens : List Token} (h : Layout false line tokens)
    {c : Char} (hc : Text.isBlank c = true) (afterWord : Bool) :
    Layout afterWord (c :: line) tokens := by
  have hcons {gap : List Char} (hgap : Text.IsBlankText gap) : Text.IsBlankText (c :: gap) :=
    List.forall_mem_cons.mpr ⟨hc, hgap⟩
  cases h with
  | finish hgap => exact .finish (hcons hgap)
  | bar hgap rest => exact .bar (hcons hgap) rest
  | word hgap hapart hword rest =>
    exact .word (hcons hgap) (fun _ => List.cons_ne_nil _ _) hword rest

/-- Every closed line is laid out; behind a word, if it ends the word. -/
theorem exists_layout {cs : List Char} (h : IsClosed cs) (afterWord : Bool)
    (hafter : afterWord = true → EndsWord cs) : ∃ tokens, Layout afterWord cs tokens := by
  have hempty : Text.IsBlankText [] := fun c hc => absurd hc List.not_mem_nil
  induction hn : cs.length using Nat.strongRecOn generalizing cs afterWord with
  | ind n ih =>
    by_cases hends : EndsWord cs
    · cases cs with
      | nil => exact ⟨[], .finish hempty⟩
      | cons c cs =>
        -- A bar or a blank comes first, behind which the line is laid out anew.
        have hclosed : IsClosed cs := by
          rcases hends c rfl with rfl | hblank
          · exact h
          · rwa [IsClosed, Quoting.run_cons, Quoting.step_bare_of_isBlank hblank] at h
        obtain ⟨tokens, htokens⟩ :=
          ih cs.length (by simp [← hn]) hclosed false (fun hfalse => by cases hfalse) rfl
        rcases hends c rfl with rfl | hblank
        · exact ⟨pipe :: tokens, .bar hempty htokens⟩
        · exact ⟨tokens, htokens.cons_blank hblank afterWord⟩
    · -- A word comes first, so that none can stand directly before it.
      obtain ⟨word, rest, rfl, hword, hends', hrest⟩ := exists_word h hends
      have hshorter : rest.length < n := by
        have hpos := List.length_pos_iff.mpr hword.ne_nil
        rw [← hn, List.length_append]
        omega
      obtain ⟨tokens, htokens⟩ := ih rest.length hshorter hrest true (fun _ => hends') rfl
      exact ⟨word :: tokens, .word hempty (fun hafter' => absurd (hafter hafter') hends) hword
        htokens⟩

/-- A line is split into some tokens exactly if it consists of these. -/
theorem tokenize_eq_ok_iff_layout {line : List Char} {tokens : List Token} :
    tokenize line = .ok tokens ↔ Layout false line tokens := by
  constructor
  · intro h
    obtain ⟨found, hfound⟩ :=
      exists_layout (isClosed_of_tokenize h) false (fun hfalse => by cases hfalse)
    obtain rfl := Except.ok.inj (h.symm.trans hfound.tokenize_eq)
    exact hfound
  · exact Layout.tokenize_eq

/-! ## Any other line leaves a quote open -/

namespace IsDoubleText

theorem append {as bs : List Char} (has : IsDoubleText as) (hbs : IsDoubleText bs) :
    IsDoubleText (as ++ bs) := by
  induction has with
  | nil => exact hbs
  | char hquote hbackslash _ ih => exact .char hquote hbackslash ih
  | escaped _ ih => exact .escaped ih

end IsDoubleText

/-- What has been read of a line that is within quotes in the state `q`: a closed beginning, the
quote and what stands behind it. -/
def Opened : (q : Quoting) → List Char → Prop
  | .bare, _ => True
  | .single, cs => ∃ front text, cs = front ++ '\'' :: text ∧ IsClosed front ∧ '\'' ∉ text
  | .double, cs => ∃ front text, cs = front ++ '"' :: text ∧ IsClosed front ∧ IsDoubleText text
  | .escape, cs =>
    ∃ front text, cs = front ++ '"' :: (text ++ ['\\']) ∧ IsClosed front ∧ IsDoubleText text

/-- One more character opens or closes a quote, or goes on behind it. -/
theorem Opened.step {q : Quoting} {cs : List Char} (hq : Quoting.bare.run cs = q)
    (h : Opened q cs) (c : Char) : Opened (q.step c) (cs ++ [c]) := by
  cases q with
  | bare =>
    rw [Quoting.step]
    split_ifs with hsingle hdouble
    · exact ⟨cs, [], by rw [hsingle], hq, List.not_mem_nil⟩
    · exact ⟨cs, [], by rw [hdouble], hq, .nil⟩
    · trivial
  | single =>
    obtain ⟨front, text, rfl, hfront, htext⟩ := h
    rw [Quoting.step]
    split_ifs with hquote
    · trivial
    · refine ⟨front, text ++ [c], by simp, hfront, ?_⟩
      simp [htext, Ne.symm hquote]
  | double =>
    obtain ⟨front, text, rfl, hfront, htext⟩ := h
    rw [Quoting.step]
    split_ifs with hquote hbackslash
    · trivial
    · exact ⟨front, text, by simp [hbackslash], hfront, htext⟩
    · exact ⟨front, text ++ [c], by simp, hfront, htext.append (.char hquote hbackslash .nil)⟩
  | escape =>
    -- The backslash and this character are taken together.
    obtain ⟨front, text, rfl, hfront, htext⟩ := h
    exact ⟨front, text ++ ['\\', c], by simp, hfront, htext.append (.escaped .nil)⟩

theorem opened_run (cs : List Char) : Opened (Quoting.bare.run cs) cs := by
  induction cs using List.reverseRecOn with
  | nil => trivial
  | append_singleton cs c ih =>
    -- The last character is read in the state in which the others leave the line.
    rw [Quoting.run_append]
    exact ih.step rfl c

/-- A quote is open at the end of a line exactly if the line opens it behind a beginning that is
laid out, and does not close it. -/
theorem openQuote?_eq_some_iff {line : List Char} {quote : Char} :
    (Quoting.bare.run line).openQuote? = some quote ↔ LeavesOpen line quote := by
  constructor
  · -- What stands before the open quote is closed, and so it is laid out.
    intro h
    have hopened := opened_run line
    have hlaid {front : List Char} (hfront : IsClosed front) :
        ∃ tokens, Layout false front tokens :=
      exists_layout hfront false fun hfalse => by cases hfalse
    generalize Quoting.bare.run line = q at h hopened
    cases q with
    | bare => cases h
    | single =>
      obtain ⟨front, text, rfl, hfront, htext⟩ := hopened
      obtain ⟨tokens, htokens⟩ := hlaid hfront
      obtain rfl := Option.some.inj h
      exact .single htokens htext
    | double =>
      obtain ⟨front, text, rfl, hfront, htext⟩ := hopened
      obtain ⟨tokens, htokens⟩ := hlaid hfront
      obtain rfl := Option.some.inj h
      exact .double htokens htext
    | escape =>
      obtain ⟨front, text, rfl, hfront, htext⟩ := hopened
      obtain ⟨tokens, htokens⟩ := hlaid hfront
      obtain rfl := Option.some.inj h
      exact .backslash htokens htext
  · -- The quote is opened outside quotes, and the text behind it stays within it.
    intro h
    have hrun {front : List Char} {tokens : List Token} (hfront : Layout false front tokens) :
        Quoting.bare.run front = .bare := isClosed_of_tokenize hfront.tokenize_eq
    cases h with
    | @single front text tokens hfront htext =>
      have hend : Quoting.bare.run (front ++ '\'' :: text) = .single := by
        rw [Quoting.run_append, hrun hfront]
        exact (isSolid_single htext).2
      rw [hend]
      rfl
    | @double front text tokens hfront htext =>
      have hend : Quoting.bare.run (front ++ '"' :: text) = .double := by
        rw [Quoting.run_append, hrun hfront]
        exact htext.run
      rw [hend]
      rfl
    | @backslash front text tokens hfront htext =>
      have hinside : Quoting.double.run (text ++ ['\\']) = .escape := by
        rw [Quoting.run_append, htext.run]
        rfl
      have hend : Quoting.bare.run (front ++ '"' :: (text ++ ['\\'])) = .escape := by
        rw [Quoting.run_append, hrun hfront]
        exact hinside
      rw [hend]
      rfl

/-! ## Tokens as lines -/

/-- Each token of a line is a line with this one token. -/
theorem Layout.tokenize_of_mem {afterWord : Bool} {line : List Char} {tokens : List Token}
    (h : Layout afterWord line tokens) : ∀ token ∈ tokens, tokenize token = .ok [token] := by
  induction h with
  | finish _ => exact fun token hmem => absurd hmem List.not_mem_nil
  | bar _ _ ih => exact List.forall_mem_cons.mpr ⟨rfl, ih⟩
  | word _ _ hword _ ih => exact List.forall_mem_cons.mpr ⟨hword.tokenize_eq, ih⟩

/-- Tokens with blanks between them are split again. -/
theorem Joined.tokenize_eq {tokens : List Token} {text : List Char} (h : Joined tokens text)
    (htokens : ∀ token ∈ tokens, tokenize token = .ok [token]) : tokenize text = .ok tokens := by
  induction h with
  | nil => rfl
  | single token => exact htokens token (List.mem_singleton_self token)
  | @cons token next rest gap text hne hgap _ ih =>
    obtain ⟨htoken, hrest⟩ := List.forall_mem_cons.mp htokens
    have hends : EndsWord (gap ++ text) := by
      obtain ⟨c, gap, rfl⟩ := List.exists_cons_of_ne_nil hne
      exact fun d hd => .inr ((Option.some.inj hd) ▸ hgap c List.mem_cons_self)
    rw [List.append_assoc, tokenize_append_of_endsWord htoken hends, tokenize_blank_append hgap,
      ih hrest]
    rfl

/-- Splitting follows the grammar of lines.

A line is split into some tokens exactly if it consists of them as they are written, with blanks
around them and at least one between two words; so there is one way only to lay out a line.
Otherwise splitting fails with the complaint about the quote that the line leaves open. Each token
of a line is split into itself, and however the tokens are put together with blanks between them,
they are split again as they were. -/
theorem tokenize_follows_grammar (line : List Char) :
    (∀ tokens, tokenize line = .ok tokens ↔ Layout false line tokens) ∧
      (∀ e, tokenize line = .error e ↔ ∃ quote, LeavesOpen line quote ∧ e = unclosed quote) ∧
      ∀ tokens, tokenize line = .ok tokens →
        (∀ token ∈ tokens, tokenize token = .ok [token]) ∧
          ∀ text, Joined tokens text → tokenize text = .ok tokens := by
  refine ⟨fun _ => tokenize_eq_ok_iff_layout, fun e => ?_, fun tokens h => ?_⟩
  · rw [tokenize_eq_error_iff]
    exact exists_congr fun quote => and_congr_left fun _ => openQuote?_eq_some_iff
  · have htokens := (tokenize_eq_ok_iff_layout.mp h).tokenize_of_mem
    exact ⟨htokens, fun _ hjoined => hjoined.tokenize_eq htokens⟩

example : tokenize "a'b c'd|\"\\\"\" e".toList =
    .ok ["a'b c'd".toList, pipe, "\"\\\"\"".toList, ['e']] := by decide +kernel

end CommandShell.Line
