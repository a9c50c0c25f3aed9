import CommandShell.Proofs.Line.Faults
import CommandShell.Proofs.Line.Joining

/-!
# Writing down pipelines

Every pipeline can be written as a line: each word is put into single quotes (`quoted`), the words
of a command are separated by blanks and the commands by bars (`writtenCommand`, `writtenLine`).
Such a line is split into the quoted words again (`tokenize_writtenLine`), nothing in them is
expanded (`itemsOf_quoted`), and without their quotes they are the words that were written, so that
reading the line gives the pipeline back (`parse_writtenLine`).
-/

namespace CommandShell.Line

/-! ## Quoted words -/

/-- A character of a word as it stands in single quotes. These cannot hold a single quote, for which
they are left. -/
def quotedChar (c : Char) : List Char :=
  if c = '\'' then ['\'', '"', '\'', '"', '\''] else [c]

/-- A word in single quotes. -/
def quoted (word : List Char) : Token :=
  '\'' :: word.flatMap quotedChar ++ ['\'']

/-- After a character of a quoted word, the single quotes are open again. -/
theorem run_quotedChar (c : Char) : Quoting.single.run (quotedChar c) = .single := by
  rw [quotedChar]
  split
  · rfl
  · next h => simp [Quoting.step, h]

/-- A quoted word has no blank and no bar outside its quotes, which are closed. -/
theorem isSolid_quoted (word : List Char) :
    IsSolid .bare (quoted word) ∧ IsClosed (quoted word) := by
  have hbody : IsSolid .single (word.flatMap quotedChar ++ ['\'']) ∧
      Quoting.single.run (word.flatMap quotedChar ++ ['\'']) = .bare := by
    induction word with
    | nil => exact ⟨⟨fun h => absurd h (by decide), trivial⟩, rfl⟩
    | cons c word ih =>
      have hchar : IsSolid .single (quotedChar c) := by
        rw [quotedChar]
        split
        · decide
        · exact ⟨fun h => absurd h (by decide), trivial⟩
      rw [List.flatMap_cons, List.append_assoc, Quoting.run_append, run_quotedChar]
      refine ⟨hchar.append ?_, ih.2⟩
      rw [run_quotedChar]
      exact ih.1
  exact ⟨⟨fun _ => by decide, hbody.1⟩, hbody.2⟩

theorem tokenize_quoted (word : List Char) : tokenize (quoted word) = .ok [quoted word] := by
  obtain ⟨hsolid, hclosed⟩ := isSolid_quoted word
  exact tokenize_of_isSolid (List.cons_ne_nil _ _) hsolid hclosed

/-- A quoted word begins with its quote, and not with the name of a variable. -/
theorem assignment?_quoted (word : List Char) : assignment? (quoted word) = none := by
  by_contra h
  obtain ⟨⟨name, value⟩, hsome⟩ := Option.ne_none_iff_exists'.mp h
  obtain ⟨hsplit, hname⟩ := assignment?_eq_some_iff.mp hsome
  cases name with
  | nil => cases hname
  | cons c rest =>
    obtain ⟨rfl, -⟩ := List.cons.inj hsplit
    have hstart : Text.isNameStart '\'' = false := by decide
    rw [Text.isIdentifier, hstart, Bool.false_and] at hname
    cases hname

/-! ## What quoted words mean -/

/-- Whatever has been collected of a word, the rest of it in quotes is added to it. -/
theorem divide_marked_quoted (env : Environment) (text word : List Char) :
    divide (some text) (marked env .single 0 (word.flatMap quotedChar ++ ['\''])) =
      [.word (text ++ word)] := by
  induction word generalizing text with
  | nil =>
    rw [List.append_nil]
    rfl
  | cons c word ih =>
    have hword : text ++ c :: word = (text ++ [c]) ++ word := by simp
    rw [List.flatMap_cons, List.append_assoc, quotedChar, hword, ← ih (text ++ [c])]
    split
    · -- The quotes around the quote open a word again, which has been begun already.
      next hquote =>
      subst hquote
      rfl
    · next hquote =>
      have hmark : Mark.ofChar .single c = [.inert c] := if_neg hquote
      have hstep : Quoting.single.step c = .single := if_neg hquote
      rw [List.singleton_append, marked_of_not_admits env rfl, hmark, hstep]
      rfl

/-- A quoted word means itself, whatever the variables are. -/
theorem itemsOf_quoted (env : Environment) (word : List Char) :
    itemsOf env (quoted word) = [.word word] :=
  divide_marked_quoted env [] word

theorem itemsOf_pipe (env : Environment) : itemsOf env pipe = [.bar] := rfl

/-! ## Lines -/

/-- The words of a command, its name first. -/
def wordsOf (command : Command) : List (List Char) :=
  (command.name :: command.args).map String.toList

/-- A command as it is written: its words in quotes, with blanks between them. -/
def writtenCommand (command : Command) : String :=
  " ".intercalate ((command.name :: command.args).map fun word => .ofList (quoted word.toList))

/-- What is written between commands: a bar, with or without blanks around it. -/
def separator (spaced : Bool) : String :=
  if spaced then " | " else "|"

/-- A pipeline as it is written: its commands with bars between them. -/
def writtenLine (spaced : Bool) (commands : List Command) : String :=
  (separator spaced).intercalate (commands.map writtenCommand)

/-- Quoted words with blanks between them are split into these words. -/
theorem tokenize_intercalate_quoted (words : List (List Char)) :
    tokenize ([' '].intercalate (words.map quoted)) = .ok (words.map quoted) := by
  induction words with
  | nil => rfl
  | cons word rest ih =>
    -- A blank is written between words only, so that the last one is a case of its own.
    cases rest with
    | nil =>
      rw [List.map_singleton, List.intercalate_singleton]
      exact tokenize_quoted word
    | cons next rest =>
      rw [List.map_cons, List.map_cons, List.intercalate_cons_cons, List.append_assoc,
        ← List.map_cons, List.singleton_append,
        tokenize_append_blank (tokenize_quoted word) rfl, ih]
      rfl

theorem tokenize_writtenCommand (command : Command) :
    tokenize (writtenCommand command).toList = .ok ((wordsOf command).map quoted) := by
  have hwritten : (writtenCommand command).toList =
      [' '].intercalate ((wordsOf command).map quoted) := by
    rw [writtenCommand, String.toList_intercalate, wordsOf, List.map_map, List.map_map]
    simp [Function.comp_def]
  rw [hwritten]
  exact tokenize_intercalate_quoted _

/-- A bar is a token of its own, whether or not there are blanks around it. -/
theorem tokenize_append_separator {first : List Char} {tokens : List Token}
    (h : tokenize first = .ok tokens) (spaced : Bool) (rest : List Char) :
    tokenize (first ++ (separator spaced).toList ++ rest) =
      (tokenize rest).map (tokens ++ pipe :: ·) := by
  cases spaced with
  | false =>
    rw [List.append_assoc]
    exact tokenize_append_bar h rest
  | true =>
    have hbar : tokenize (' ' :: rest) = tokenize rest := by
      have hblank := tokenize_append_blank tokenize_nil (c := ' ') rfl rest
      rw [List.nil_append] at hblank
      rw [hblank]
      cases tokenize rest <;> rfl
    have hspaced := tokenize_append_bar tokenize_nil (' ' :: rest)
    rw [List.append_assoc]
    refine (tokenize_append_blank h rfl ('|' :: ' ' :: rest)).trans ?_
    rw [List.nil_append, hbar] at hspaced
    rw [hspaced]
    cases tokenize rest <;> rfl

/-- The tokens of a pipeline as it is written. -/
def writtenTokens (commands : List Command) : List Token :=
  [pipe].intercalate (commands.map fun command => (wordsOf command).map quoted)

/-- A written pipeline is split into its quoted words, with bars between those of its commands. -/
theorem tokenize_writtenLine (spaced : Bool) (commands : List Command) :
    tokenize (writtenLine spaced commands).toList = .ok (writtenTokens commands) := by
  rw [writtenLine, String.toList_intercalate, writtenTokens]
  induction commands with
  | nil => rfl
  | cons command rest ih =>
    cases rest with
    | nil =>
      rw [List.map_singleton, List.map_singleton, List.map_singleton, List.intercalate_singleton,
        List.intercalate_singleton]
      exact tokenize_writtenCommand command
    | cons next rest =>
      simp only [List.map_cons, List.intercalate_cons_cons] at ih ⊢
      rw [tokenize_append_separator (tokenize_writtenCommand command), ih]
      change Except.ok _ = Except.ok _
      rw [List.append_assoc]
      rfl

/-! ## Reading them back -/

/-- The items of a written pipeline are its words and bars, whatever the variables are. -/
theorem flatMap_itemsOf_writtenTokens (env : Environment) (commands : List Command) :
    (writtenTokens commands).flatMap (itemsOf env) =
      [Item.bar].intercalate (commands.map fun command => (wordsOf command).map .word) := by
  have hwords (words : List (List Char)) :
      (words.map quoted).flatMap (itemsOf env) = words.map .word := by
    rw [List.flatMap_map, List.flatMap_congr fun word _ => itemsOf_quoted env word]
    exact List.flatMap_pure_eq_map Item.word words
  rw [writtenTokens]
  induction commands with
  | nil => rfl
  | cons command rest ih =>
    cases rest with
    | nil =>
      rw [List.map_singleton, List.map_singleton, List.intercalate_singleton,
        List.intercalate_singleton, hwords]
    | cons next rest =>
      simp only [List.map_cons, List.intercalate_cons_cons] at ih ⊢
      rw [List.flatMap_append, List.flatMap_append, hwords, List.flatMap_singleton, itemsOf_pipe,
        ih]

theorem betweenBars_words_append (texts : List (List Char)) (rest : List Item) :
    betweenBars (texts.map .word ++ rest) = (betweenBars rest).modifyHead (texts ++ ·) := by
  induction texts with
  | nil =>
    change betweenBars rest = (betweenBars rest).modifyHead id
    cases betweenBars rest <;> rfl
  | cons text texts ih =>
    rw [List.map_cons, List.cons_append, betweenBars, ih, List.modifyHead_modifyHead]
    rfl

/-- Between the bars of a pipeline stand the words of its commands. -/
theorem betweenBars_intercalate (first : List (List Char)) (rest : List (List (List Char))) :
    betweenBars ([Item.bar].intercalate ((first :: rest).map (List.map .word))) =
      first :: rest := by
  induction rest generalizing first with
  | nil =>
    rw [List.map_singleton, List.intercalate_singleton, ← List.append_nil (first.map Item.word),
      betweenBars_words_append]
    simp [betweenBars]
  | cons next rest ih =>
    rw [List.map_cons, List.map_cons, List.intercalate_cons_cons, ← List.map_cons,
      List.append_assoc, betweenBars_words_append, List.singleton_append, betweenBars, ih,
      List.modifyHead_cons, List.append_nil]

/-- The words of commands make these commands again. -/
theorem mapM_commandOfTexts_wordsOf (commands : List Command) :
    (commands.map wordsOf).mapM commandOfTexts = .ok commands := by
  induction commands with
  | nil => rfl
  | cons command rest ih =>
    have hfirst : commandOfTexts (wordsOf command) = .ok command := by
      simp [wordsOf, commandOfTexts]
    rw [List.map_cons, List.mapM_cons, hfirst, ih]
    rfl

theorem pipelineOfItems_written (first : Command) (rest : List Command) :
    pipelineOfItems ([Item.bar].intercalate
        ((first :: rest).map fun command => (wordsOf command).map .word)) =
      .ok (.pipeline (first :: rest)) := by
  have hbetween := betweenBars_intercalate (wordsOf first) (rest.map wordsOf)
  rw [← List.map_cons, List.map_map] at hbetween
  change betweenBars ([Item.bar].intercalate
    ((first :: rest).map fun command => (wordsOf command).map .word)) = _ at hbetween
  rw [pipelineOfItems, if_neg, hbetween, mapM_commandOfTexts_wordsOf]
  · rfl
  · -- Without any items the first command would have no name.
    intro hnil
    rw [hnil, List.map_cons, wordsOf] at hbetween
    cases hbetween

/-- A pipeline that is written down with its words in quotes is read back as it is: no word is
expanded, split, merged or dropped, or taken for an assignment or a bar, whatever characters it has
and whatever the variables are. -/
theorem parse_writtenLine (env : Environment) (spaced : Bool) (first : Command)
    (rest : List Command) :
    parse env (writtenLine spaced (first :: rest)) = .ok (.pipeline (first :: rest)) := by
  -- The first token is the quoted name, so that there is one, and it is no assignment.
  obtain ⟨more, hmore⟩ : ∃ more,
      writtenTokens (first :: rest) = quoted first.name.toList :: more := by
    rw [writtenTokens]
    cases rest with
    | nil => exact ⟨_, List.intercalate_singleton⟩
    | cons next rest => exact ⟨_, List.intercalate_cons_cons⟩
  have hne : writtenTokens (first :: rest) ≠ [] := by
    rw [hmore]
    exact List.cons_ne_nil _ _
  have hassignment : ∀ token, writtenTokens (first :: rest) = [token] →
      assignment? token = none := by
    intro token htoken
    rw [hmore] at htoken
    obtain ⟨rfl, -⟩ := List.cons.inj htoken
    exact assignment?_quoted _
  rw [parse_eq_pipelineOfItems env (tokenize_writtenLine spaced (first :: rest)) hne hassignment,
    flatMap_itemsOf_writtenTokens, pipelineOfItems_written]

example : writtenLine true [⟨"echo", ["it's", ""]⟩, ⟨"cat", []⟩] =
    "'echo' 'it'\"'\"'s' '' | 'cat'" := by decide

end CommandShell.Line
