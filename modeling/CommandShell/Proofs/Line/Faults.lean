import CommandShell.Proofs.Line.Meaning
import Mathlib.Data.List.Infix

/-!
# Faults of a line

Which lines cannot be read, and with which complaint. A line has at most one fault, and `Fault`
says which: a blank line is empty; else an open quote is unclosed, where the quotes are those of
the line as it is written; else an assignment of nothing is empty; else a line that is no
assignment lacks the words of a stage if a `|` stands first, last or next to another one among the
words that it expands to. Reading fails in these cases and in no other (`parse_eq_error_iff`); in
particular no value can open a quote or close one, and no command is ever without words.
-/

namespace CommandShell.Line

/-- The line is a single token that gives a variable a value. -/
def IsAssignment (line : List Char) : Prop :=
  ∃ name value, tokenize line = .ok [name ++ '=' :: value] ∧ Text.isIdentifier name = true

/-- The line is a single token `name=` with nothing after the `=`. -/
def IsEmptyAssignment (line : List Char) (name : String) : Prop :=
  tokenize line = .ok [name.toList ++ ['=']] ∧ Text.isIdentifier name.toList = true

/-- The words that the tokens of a line expand to. -/
def ExpandsTo (env : Environment) (line : List Char) (words : List Token) : Prop :=
  ∃ tokens, tokenize line = .ok tokens ∧ expandedWords env tokens = .ok words

/-- There are words, and a `|` stands first, last or next to another one among them. -/
def HasEmptyStage (words : List Token) : Prop :=
  words ≠ [] ∧ (words.head? = some pipe ∨ words.getLast? = some pipe ∨ [pipe, pipe] <:+: words)

/-- What is wrong with a line. -/
inductive Fault (env : Environment) (line : List Char) : Error → Prop
  /-- The line is blank. -/
  | blank (h : Text.IsBlankText line) : Fault env line .emptyInput
  /-- A quote is open at the end of the line. -/
  | unclosed {quote : Char} (hblank : ¬Text.IsBlankText line)
      (hopen : (Quoting.bare.run line).openQuote? = some quote) : Fault env line (unclosed quote)
  /-- A variable is assigned nothing. -/
  | emptyAssignment {name : String} (hblank : ¬Text.IsBlankText line)
      (h : IsEmptyAssignment line name) : Fault env line (.emptyAssignment name)
  /-- A stage has no words. -/
  | emptyStage {words : List Token} (hblank : ¬Text.IsBlankText line)
      (hassignment : ¬IsAssignment line) (hwords : ExpandsTo env line words)
      (h : HasEmptyStage words) : Fault env line .emptyStage

/-! ## Assignments -/

/-- A token is an assignment if an identifier stands before its first `=`. -/
theorem assignment?_eq_some_iff {token name value : List Char} :
    assignment? token = some (name, value) ↔
      token = name ++ '=' :: value ∧ Text.isIdentifier name = true := by
  have hsplit := List.takeWhile_append_dropWhile (p := (· != '=')) (l := token)
  constructor
  · intro h
    unfold assignment? at h
    split at h
    · cases h
    · next c rest hrest =>
      have hc : c = '=' := by
        have hhead := List.head_dropWhile_not (· != '=') (l := token) (by simp [hrest])
        simpa [hrest] using hhead
      dsimp only at h
      split_ifs at h with hname
      obtain ⟨rfl, rfl⟩ := Prod.mk.inj (Option.some.inj h)
      rw [hrest, hc] at hsplit
      exact ⟨hsplit.symm, hname⟩
  · -- No character of an identifier is `=`, so the first one in the token is the one behind it.
    rintro ⟨rfl, hname⟩
    have hchars : ∀ c ∈ name, (c != '=') = true := by
      intro c hc
      have hnameChar : Text.isNameChar c = true := by
        cases name with
        | nil => exact absurd hc List.not_mem_nil
        | cons d rest =>
          rw [Text.isIdentifier, Bool.and_eq_true, List.all_eq_true] at hname
          rcases List.mem_cons.mp hc with rfl | hmem
          · exact Text.isNameChar_of_isNameStart hname.1
          · exact hname.2 c hmem
      rw [bne_iff_ne]
      rintro rfl
      exact absurd hnameChar (by decide)
    rw [assignment?, List.takeWhile_append_of_pos hchars, List.dropWhile_append_of_pos hchars]
    simp [hname]

theorem isAssignment_iff {line : List Char} {tokens : List Token}
    (htokens : tokenize line = .ok tokens) :
    IsAssignment line ↔ ∃ token, tokens = [token] ∧ assignment? token ≠ none := by
  constructor
  · rintro ⟨name, value, hline, hname⟩
    refine ⟨_, Except.ok.inj (htokens.symm.trans hline), ?_⟩
    rw [assignment?_eq_some_iff.mpr ⟨rfl, hname⟩]
    exact Option.some_ne_none _
  · rintro ⟨token, rfl, hsome⟩
    obtain ⟨⟨name, value⟩, h⟩ := Option.ne_none_iff_exists'.mp hsome
    obtain ⟨rfl, hname⟩ := assignment?_eq_some_iff.mp h
    exact ⟨name, value, htokens, hname⟩

/-! ## Stages -/

private theorem error_eq_error_iff {α : Type} {e e' : Error} :
    (Except.error e' : Except Error α) = .error e ↔ e = e' := by
  rw [Except.error.injEq, eq_comm]

/-- Dividing words fails exactly if a stage stays empty; `stage` holds the words of the first one
that have been taken already. -/
theorem stagesAfter_eq_error_iff (stage words : List Token) (e : Error) :
    stagesAfter stage words = .error e ↔ e = .emptyStage ∧
      ((stage = [] ∧ (words = [] ∨ words.head? = some pipe)) ∨ words.getLast? = some pipe ∨
        [pipe, pipe] <:+: words) := by
  induction words generalizing stage with
  | nil =>
    by_cases hstage : stage = []
    · simpa [stagesAfter, hstage] using eq_comm
    · simp [stagesAfter, hstage]
  | cons word rest ih =>
    have hlast : (word :: rest).getLast? = some pipe ↔
        (rest = [] ∧ word = pipe) ∨ rest.getLast? = some pipe := by
      cases rest with
      | nil => simp
      | cons other rest => simp [List.getLast?_cons_cons]
    have hinfix : [pipe, pipe] <:+: word :: rest ↔
        (word = pipe ∧ rest.head? = some pipe) ∨ [pipe, pipe] <:+: rest := by
      rw [List.infix_cons_iff, List.cons_prefix_cons]
      cases rest with
      | nil => simp
      | cons other rest => simp [List.cons_prefix_cons, eq_comm]
    -- A pipe at the front is at fault by what stands before it and by what follows it.
    rw [stagesAfter, hlast, hinfix]
    by_cases hpipe : word = pipe
    · by_cases hstage : stage = []
      · simpa [hpipe, hstage] using eq_comm
      · have hmap : (stagesAfter [] rest).map (stage.reverse :: ·) = .error e ↔
            stagesAfter [] rest = .error e := by
          cases stagesAfter [] rest <;> simp [Except.map]
        rw [if_pos hpipe, if_neg (by simpa using hstage), hmap, ih]
        simp only [hpipe, hstage, true_and, false_and, false_or, and_true]
        rw [or_or_or_comm]
    · rw [if_neg hpipe, ih]
      simp [hpipe]

/-- Words lack a stage exactly if there are some and a `|` stands first, last or next to another
one. -/
theorem stages_eq_error_iff (words : List Token) (e : Error) :
    stages words = .error e ↔ e = .emptyStage ∧ HasEmptyStage words := by
  by_cases hwords : words = []
  · simp [stages, HasEmptyStage, hwords]
  · rw [stages, if_neg (by simpa using hwords), stagesAfter_eq_error_iff]
    simp [HasEmptyStage, hwords]

/-- Every stage has a word. -/
theorem ne_nil_of_mem_stagesAfter {stage words : List Token} {groups : List (List Token)}
    (h : stagesAfter stage words = .ok groups) : ∀ group ∈ groups, group ≠ [] := by
  induction words generalizing stage groups with
  | nil =>
    rw [stagesAfter] at h
    split_ifs at h with hstage
    rw [← Except.ok.inj h]
    simpa using hstage
  | cons word rest ih =>
    rw [stagesAfter] at h
    split_ifs at h with hpipe hstage
    · cases hrest : stagesAfter [] rest with
      | error e =>
        rw [hrest] at h
        cases h
      | ok others =>
        rw [hrest] at h
        rw [← Except.ok.inj h]
        intro group hgroup
        rcases List.mem_cons.mp hgroup with rfl | hmem
        · simpa using hstage
        · exact ih hrest group hmem
    · exact ih h

/-- Stages with words are commands. -/
theorem exists_mapM_commandOf {groups : List (List Token)} (h : ∀ group ∈ groups, group ≠ []) :
    ∃ commands, groups.mapM commandOf = .ok commands := by
  induction groups with
  | nil => exact ⟨[], rfl⟩
  | cons group rest ih =>
    obtain ⟨command, hcommand⟩ := exists_commandOf (h group List.mem_cons_self)
    obtain ⟨commands, hcommands⟩ := ih fun g hg => h g (List.mem_cons_of_mem group hg)
    refine ⟨command :: commands, ?_⟩
    rw [List.mapM_cons, hcommand, hcommands]
    rfl

/-- Words make no pipeline exactly if a stage stays empty. -/
theorem pipelineOf_eq_error_iff (words : List Token) (e : Error) :
    pipelineOf words = .error e ↔ e = .emptyStage ∧ HasEmptyStage words := by
  rw [← stages_eq_error_iff, pipelineOf]
  cases h : stages words with
  | error e' =>
    change (Except.error e' : Except Error Statement) = .error e ↔ _
    rw [error_eq_error_iff, error_eq_error_iff]
  | ok groups =>
    have hgroups : ∀ group ∈ groups, group ≠ [] := by
      rw [stages] at h
      split_ifs at h with hnil
      · rw [← Except.ok.inj h]
        exact fun _ hmem => absurd hmem List.not_mem_nil
      · exact ne_nil_of_mem_stagesAfter h
    obtain ⟨commands, hcommands⟩ := exists_mapM_commandOf hgroups
    change (groups.mapM commandOf >>= fun commands => .ok (Statement.pipeline commands)) = _ ↔ _
    rw [hcommands]
    constructor
    · intro h
      cases h
    · intro h
      cases h

/-! ## Lines -/

theorem parse_of_isBlankText (env : Environment) {line : String}
    (h : Text.IsBlankText line.toList) : parse env line = .error .emptyInput := by
  have hnil : (Text.trim line.toList).isEmpty = true := by
    rw [List.isEmpty_iff]
    exact trim_eq_nil_iff.mpr h
  rw [parse]
  simp only [hnil, if_true]

theorem parse_of_tokenize_eq_error (env : Environment) {line : String} {e : Error}
    (hblank : ¬Text.IsBlankText line.toList) (h : tokenize line.toList = .error e) :
    parse env line = .error e := by
  have hne : (Text.trim line.toList).isEmpty = false := by
    rw [List.isEmpty_eq_false_iff]
    exact mt trim_eq_nil_iff.mp hblank
  rw [parse]
  simp only [hne, Bool.false_eq_true, if_false]
  rw [tokenize_trim, h]
  rfl

/-- An assignment fails exactly if it has no value. -/
theorem statementOf_assignment_eq_error_iff (env : Environment) {name value : List Char}
    (hname : Text.isIdentifier name = true) (e : Error) :
    statementOf env [name ++ '=' :: value] = .error e ↔
      value = [] ∧ e = .emptyAssignment (String.ofList name) := by
  have hassign := assignment?_eq_some_iff.mpr
    (⟨rfl, hname⟩ : name ++ '=' :: value = name ++ '=' :: value ∧ _)
  simp only [statementOf, hassign, assign]
  by_cases hvalue : value = []
  · simpa [hvalue] using eq_comm
  · simp [hvalue]

/-! ## The fault of a line -/

/-- The only fault of a blank line is that it is blank. -/
theorem fault_iff_of_isBlankText {env : Environment} {line : List Char}
    (hblank : Text.IsBlankText line) (e : Error) : Fault env line e ↔ e = .emptyInput := by
  constructor
  · intro h
    cases h with
    | blank => rfl
    | unclosed hne => exact absurd hblank hne
    | emptyAssignment hne => exact absurd hblank hne
    | emptyStage hne => exact absurd hblank hne
  · rintro rfl
    exact .blank hblank

/-- The only fault of a line that leaves a quote open is that quote. -/
theorem fault_iff_of_openQuote? {env : Environment} {line : List Char} {quote : Char}
    (hblank : ¬Text.IsBlankText line) (hopen : (Quoting.bare.run line).openQuote? = some quote)
    (e : Error) : Fault env line e ↔ e = unclosed quote := by
  have htokens : tokenize line = .error (unclosed quote) :=
    tokenize_eq_error_iff.mpr ⟨quote, hopen, rfl⟩
  constructor
  · intro h
    cases h with
    | blank h => exact absurd h hblank
    | unclosed _ hopen' => rw [Option.some.inj (hopen'.symm.trans hopen)]
    | emptyAssignment _ h => cases htokens.symm.trans h.1
    | emptyStage _ _ hwords =>
      obtain ⟨tokens, h, -⟩ := hwords
      cases htokens.symm.trans h
  · rintro rfl
    exact .unclosed hblank hopen

/-- The only fault of an assignment is that it has no value. -/
theorem fault_iff_of_assignment {env : Environment} {line name value : List Char}
    (hblank : ¬Text.IsBlankText line) (hline : tokenize line = .ok [name ++ '=' :: value])
    (hname : Text.isIdentifier name = true) (e : Error) :
    Fault env line e ↔ value = [] ∧ e = .emptyAssignment (String.ofList name) := by
  constructor
  · intro h
    cases h with
    | blank h => exact absurd h hblank
    | unclosed _ hopen =>
      rw [isClosed_iff_openQuote?.mp (isClosed_of_tokenize hline)] at hopen
      cases hopen
    | emptyStage _ h => exact absurd ⟨name, value, hline, hname⟩ h
    | @emptyAssignment name' _ h =>
      -- A token is an assignment in one way only.
      have htoken := List.head_eq_of_cons_eq (Except.ok.inj (hline.symm.trans h.1))
      have hsome := assignment?_eq_some_iff.mpr ⟨htoken, h.2⟩
      rw [assignment?_eq_some_iff.mpr ⟨rfl, hname⟩] at hsome
      obtain ⟨rfl, rfl⟩ := Prod.mk.inj (Option.some.inj hsome)
      exact ⟨rfl, by rw [String.ofList_toList]⟩
  · rintro ⟨rfl, rfl⟩
    refine .emptyAssignment hblank ⟨?_, ?_⟩
    · rw [String.toList_ofList]
      exact hline
    · rwa [String.toList_ofList]

/-- The only fault of a line of words is that a stage has none. -/
theorem fault_iff_of_expandsTo {env : Environment} {line : List Char} {words : List Token}
    (hblank : ¬Text.IsBlankText line) (hassignment : ¬IsAssignment line)
    (hwords : ExpandsTo env line words) (e : Error) :
    Fault env line e ↔ e = .emptyStage ∧ HasEmptyStage words := by
  obtain ⟨tokens, htokens, hexpanded⟩ := hwords
  constructor
  · intro h
    cases h with
    | blank h => exact absurd h hblank
    | unclosed _ hopen =>
      rw [isClosed_iff_openQuote?.mp (isClosed_of_tokenize htokens)] at hopen
      cases hopen
    | emptyAssignment _ h => exact absurd ⟨_, [], h.1, h.2⟩ hassignment
    | emptyStage _ _ hline h =>
      obtain ⟨tokens', htokens', hexpanded'⟩ := hline
      obtain rfl := Except.ok.inj (htokens.symm.trans htokens')
      obtain rfl := Except.ok.inj (hexpanded.symm.trans hexpanded')
      exact ⟨rfl, h⟩
  · rintro ⟨rfl, h⟩
    exact .emptyStage hblank hassignment ⟨tokens, htokens, hexpanded⟩ h

/-- Reading a line fails exactly with its fault. -/
theorem parse_eq_error_iff (env : Environment) (line : String) (e : Error) :
    parse env line = .error e ↔ Fault env line.toList e := by
  by_cases hblank : Text.IsBlankText line.toList
  · rw [parse_of_isBlankText env hblank, fault_iff_of_isBlankText hblank, error_eq_error_iff]
  cases htokens : tokenize line.toList with
  | error e' =>
    obtain ⟨quote, hopen, rfl⟩ := tokenize_eq_error_iff.mp htokens
    rw [parse_of_tokenize_eq_error env hblank htokens, fault_iff_of_openQuote? hblank hopen,
      error_eq_error_iff]
  | ok tokens =>
    rw [parse_eq_statementOf env hblank htokens]
    by_cases hassignment : IsAssignment line.toList
    · -- The value of an assignment is not divided, so that there is no stage to be empty.
      obtain ⟨name, value, hline, hname⟩ := hassignment
      obtain rfl := Except.ok.inj (htokens.symm.trans hline)
      rw [statementOf_assignment_eq_error_iff env hname,
        fault_iff_of_assignment hblank hline hname]
    · have hnone : ∀ token, tokens = [token] → assignment? token = none := by
        intro token h
        by_contra hsome
        exact hassignment ((isAssignment_iff htokens).mpr ⟨token, h, hsome⟩)
      -- Expansion cannot fail: the values have left all quotes closed.
      obtain ⟨words, hwords, -⟩ := items_expandedWords env
        fun _ hmem => isClosed_of_mem_tokenize htokens hmem
      have hparse : statementOf env tokens = pipelineOf words := by
        rw [statementOf_eq env hnone, hwords]
        rfl
      rw [hparse, pipelineOf_eq_error_iff,
        fault_iff_of_expandsTo hblank hassignment ⟨tokens, htokens, hwords⟩]

/-- The words of an assignment are not divided: the value may expand to a `|`, which would be a
fault anywhere else. -/
theorem assignment_of_pipe_has_no_fault :
    let env := Environment.initial.set "p" "|"
    let line := "x=$p"
    (¬Text.IsBlankText line.toList ∧ IsClosed line.toList ∧
        ∀ name, ¬IsEmptyAssignment line.toList name) ∧
      (ExpandsTo env line.toList ["x=".toList, pipe] ∧ HasEmptyStage ["x=".toList, pipe]) ∧
      parse env line = .ok (.assignment "x" "|") := by
  intro env line
  refine ⟨⟨by decide, by decide, ?_⟩, ⟨⟨["x=$p".toList], by decide, by decide⟩, ?_⟩, by decide⟩
  · rintro name ⟨h, -⟩
    have htoken := List.head_eq_of_cons_eq (Except.ok.inj
      ((by decide : tokenize "x=$p".toList = .ok ["x=$p".toList]).symm.trans h))
    have hlast := congrArg List.getLast? htoken
    rw [List.getLast?_append, List.getLast?_singleton, Option.some_or] at hlast
    exact absurd hlast (by decide)
  · exact ⟨by decide, .inr (.inl (by decide))⟩

end CommandShell.Line
