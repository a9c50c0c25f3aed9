import CommandShell.Line.Statement
import CommandShell.Proofs.Line.Marks

/-!
# What a line means

A line is read by splitting it, expanding each token to a text, splitting that text again, dividing
the words at pipes and removing their quotes. All of it together does what one pass over the tokens
does that marks their characters and divides them (`onePass`): values are looked at once, and no
character of a value is ever taken for a quote, an escape or a reference
(`parse_eq_onePass`).
-/

namespace CommandShell.Line

/-- The words between bars, stage by stage. -/
def betweenBars : List Item → List (List (List Char))
  | [] => [[]]
  | .bar :: rest => [] :: betweenBars rest
  | .word text :: rest => (betweenBars rest).modifyHead (text :: ·)

/-- The command whose words are given without quotes. A stage needs a word. -/
def commandOfTexts : List (List Char) → Except Error Command
  | [] => .error .emptyStage
  | name :: args => .ok ⟨String.ofList name, args.map String.ofList⟩

/-- The pipeline that some items make; without any items it has no commands. -/
def pipelineOfItems (items : List Item) : Except Error Statement :=
  if items = [] then .ok (.pipeline [])
  else ((betweenBars items).mapM commandOfTexts).map .pipeline

/-- The items of a token, found in one pass. -/
def itemsOf (env : Environment) (token : Token) : List Item :=
  divide none (marked env .bare 0 token)

/-- The pipeline that some tokens make, found in one pass over each. -/
def onePass (env : Environment) (tokens : List Token) : Except Error Statement :=
  pipelineOfItems (tokens.flatMap (itemsOf env))

/-! ## Words -/

/-- Closed tokens expand to words, which are the items that one pass finds. -/
theorem items_expandedWords (env : Environment) {tokens : List Token}
    (h : ∀ token ∈ tokens, IsClosed token) :
    ∃ words, expandedWords env tokens = .ok words ∧
      words.map Item.ofToken = tokens.flatMap (itemsOf env) := by
  induction tokens with
  | nil => exact ⟨[], rfl, rfl⟩
  | cons token rest ih =>
    have htoken : IsClosed token := h token List.mem_cons_self
    obtain ⟨others, hothers, hitems⟩ := ih fun t ht => h t (List.mem_cons_of_mem token ht)
    obtain ⟨words, hwords⟩ := exists_tokenize_eq_ok ((isClosed_expand_iff env token).mpr htoken)
    refine ⟨words ++ others, ?_, ?_⟩
    · rw [expandedWords, hwords, hothers]
      rfl
    · rw [List.map_append, List.flatMap_cons, hitems, divide_marked env htoken hwords, itemsOf]

/-! ## Stages -/

/-- A stage with a word is the command of its unquoted words. -/
theorem commandOf_eq {stage : List Token} (h : stage ≠ []) :
    commandOf stage = commandOfTexts (stage.map unquote) := by
  cases stage with
  | nil => exact absurd rfl h
  | cons word rest => simp [commandOf, Command.ofWords, commandOfTexts]

theorem exists_commandOf {stage : List Token} (h : stage ≠ []) :
    ∃ command, commandOf stage = .ok command := by
  rw [commandOf_eq h]
  cases stage with
  | nil => exact absurd rfl h
  | cons word rest => exact ⟨_, rfl⟩

private theorem modifyHead_nil_append (stages : List (List (List Char))) :
    stages.modifyHead (([] : List Token).reverse.map unquote ++ ·) = stages := by
  cases stages <;> rfl

/-- Dividing words at pipes and making commands of the stages is making commands of what stands
between bars; `stage` holds the words of the first stage that have been taken already. -/
theorem mapM_stagesAfter (stage words : List Token) :
    (stagesAfter stage words >>= List.mapM commandOf) =
      ((betweenBars (words.map Item.ofToken)).modifyHead
        (stage.reverse.map unquote ++ ·)).mapM commandOfTexts := by
  induction words generalizing stage with
  | nil =>
    by_cases hstage : stage = []
    · subst hstage
      rfl
    · have hreverse : stage.reverse ≠ [] := by simpa using hstage
      have hafter : stagesAfter stage [] = .ok [stage.reverse] := by
        simp [stagesAfter, hstage]
      have hbetween : betweenBars ([].map Item.ofToken) = [[]] := rfl
      rw [hafter, hbetween, List.modifyHead_cons, List.append_nil]
      change [stage.reverse].mapM commandOf = _
      rw [List.mapM_cons, List.mapM_cons, commandOf_eq hreverse]
      rfl
  | cons word rest ih =>
    by_cases hpipe : word = pipe
    · -- A bar ends the stage, which makes a command unless it has no words.
      have hitem : Item.ofToken word = .bar := if_pos hpipe
      rw [List.map_cons, hitem, betweenBars, List.modifyHead_cons, List.append_nil,
        List.mapM_cons, stagesAfter, if_pos hpipe]
      by_cases hstage : stage = []
      · subst hstage
        rfl
      · have hreverse : stage.reverse ≠ [] := by simpa using hstage
        have hnil := ih []
        rw [modifyHead_nil_append] at hnil
        obtain ⟨command, hcommand⟩ := exists_commandOf hreverse
        rw [if_neg (by simpa using hstage), ← commandOf_eq hreverse, hcommand, ← hnil]
        cases stagesAfter [] rest with
        | error e => rfl
        | ok stages =>
          change List.mapM commandOf (stage.reverse :: stages) = _
          rw [List.mapM_cons, hcommand]
          rfl
    · -- Any other word is added to the stage on both sides.
      have hitem : Item.ofToken word = .word (unquote word) := if_neg hpipe
      rw [List.map_cons, hitem, betweenBars, List.modifyHead_modifyHead, stagesAfter,
        if_neg hpipe, ih (word :: stage), List.reverse_cons, List.map_append]
      congr 2
      funext texts
      simp

/-- The words that tokens expand to make the pipeline of their items. -/
theorem pipelineOf_eq (words : List Token) :
    pipelineOf words = pipelineOfItems (words.map Item.ofToken) := by
  by_cases h : words = []
  · subst h
    rfl
  · have hitems : words.map Item.ofToken ≠ [] := by simpa using h
    have hstages := mapM_stagesAfter [] words
    rw [modifyHead_nil_append] at hstages
    rw [pipelineOfItems, if_neg hitems, ← hstages, pipelineOf, stages,
      if_neg (by simpa using h)]
    cases stagesAfter [] words with
    | error e => rfl
    | ok groups =>
      change (List.mapM commandOf groups >>= fun commands => .ok (Statement.pipeline commands)) =
        (List.mapM commandOf groups).map Statement.pipeline
      cases List.mapM commandOf groups with
      | error e => rfl
      | ok commands => rfl

/-! ## Lines -/

/-- Tokens that are no assignment are expanded. -/
theorem statementOf_eq (env : Environment) {tokens : List Token}
    (h : ∀ token, tokens = [token] → assignment? token = none) :
    statementOf env tokens = expandedWords env tokens >>= pipelineOf := by
  unfold statementOf
  split
  · next token =>
    rw [h token rfl]
  · rfl

/-- A line that can be split is read through its tokens. -/
theorem parse_eq_statementOf (env : Environment) {line : String} {tokens : List Token}
    (hblank : ¬Text.IsBlankText line.toList) (htokens : tokenize line.toList = .ok tokens) :
    parse env line = statementOf env tokens := by
  have hne : (Text.trim line.toList).isEmpty = false := by
    rw [List.isEmpty_eq_false_iff]
    exact mt trim_eq_nil_iff.mp hblank
  rw [parse]
  simp only [hne, Bool.false_eq_true, if_false]
  rw [tokenize_trim, htokens]
  rfl

/-- A line that is not blank, can be split and is no assignment means what one pass over its tokens
finds: no value is read a second time, whatever characters it has. -/
theorem parse_eq_onePass (env : Environment) {line : String} {tokens : List Token}
    (hblank : ¬Text.IsBlankText line.toList) (htokens : tokenize line.toList = .ok tokens)
    (hassignment : ∀ token, tokens = [token] → assignment? token = none) :
    parse env line = onePass env tokens := by
  have hclosed : ∀ token ∈ tokens, IsClosed token :=
    fun _ hmem => isClosed_of_mem_tokenize htokens hmem
  obtain ⟨words, hwords, hitems⟩ := items_expandedWords env hclosed
  rw [parse_eq_statementOf env hblank htokens, statementOf_eq env hassignment, hwords, onePass,
    ← hitems, ← pipelineOf_eq]
  rfl

/-- A value with quotes, a backslash, a `$`, a blank and a `|` in it, once outside quotes and once
inside them: outside only its blank and its `|` still count, inside nothing does. -/
theorem parse_value_of_all_signs :
    let env := Environment.initial.set "x" "it's| \"$x\\"
    let line := "echo $x'a' | \"<$x>\""
    let tokens := ["echo".toList, "$x'a'".toList, ['|'], "\"<$x>\"".toList]
    (¬Text.IsBlankText line.toList ∧ tokenize line.toList = .ok tokens ∧
        ∀ token, tokens = [token] → assignment? token = none) ∧
      parse env line = onePass env tokens ∧
      onePass env tokens = .ok (.pipeline
        [⟨"echo", ["it's"]⟩, ⟨"\"$x\\a", []⟩, ⟨"<it's| \"$x\\>", []⟩]) := by
  intro env line tokens
  have hblank : ¬Text.IsBlankText line.toList := by decide
  have htokens : tokenize line.toList = .ok tokens := by decide
  have hassignment : ∀ token, tokens = [token] → assignment? token = none := by
    intro token h
    exact absurd (congrArg List.length h) (by simp [tokens])
  exact ⟨⟨hblank, htokens, hassignment⟩, parse_eq_onePass env hblank htokens hassignment,
    by decide⟩

end CommandShell.Line
