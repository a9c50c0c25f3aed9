import CommandShell.Proofs.Line.References
import CommandShell.Proofs.Line.Remover

/-!
# Marked text

What a token means can be read off in one pass, without expanding it to a text that is split and
unquoted afterwards. The pass marks each character (`marked`): *active* characters may still
separate words, *inert* ones stand for themselves only, and a quote that opens leaves a mark that
there is a word, if only an empty one. The marked characters are then divided into words and bars
(`divide`).

* `divide_marks`: to split a text without references and remove the quotes of its tokens is to
  divide its marks;
* `divide_marked`: the marks of a token with references divide like the marks of its expansion.

Together they say what the words are that a token expands to (`items_expandedWords`).
-/

namespace CommandShell.Line

/-- A character of a text, marked with what it can still do. -/
inductive Mark where
  /-- A character that separates words if it is blank, and is a bar if it is `|`. -/
  | active (c : Char)
  /-- A character that stands for itself only. -/
  | inert (c : Char)
  /-- No character, but the sign that there is a word. -/
  | opening
  deriving DecidableEq, Repr

namespace Mark

/-- The marks that a written character leaves, by where it stands. -/
def ofChar : Quoting → Char → List Mark
  | .bare, c => if c = '\'' ∨ c = '"' then [.opening] else [.active c]
  | .single, c => if c = '\'' then [] else [.inert c]
  | .double, c => if c = '"' ∨ c = '\\' then [] else [.inert c]
  | .escape, c =>
    if c = 'n' then [.inert '\n']
    else if c = 't' then [.inert '\t']
    else if c = '"' ∨ c = '\\' ∨ c = '$' then [.inert c]
    else [.inert '\\', .inert c]

/-- The mark of a character of a value. Outside quotes the value's characters are active, but its
quotes are not: they do not quote. -/
def ofValueChar (quoted : Bool) (c : Char) : Mark :=
  if quoted = true ∨ c = '\'' ∨ c = '"' then .inert c else .active c

end Mark

/-- The marks of a text without references that begins in state `q`. -/
def marks : (q : Quoting) → List Char → List Mark
  | _, [] => []
  | q, c :: rest => Mark.ofChar q c ++ marks (q.step c) rest

/-- The marks of a text that begins in state `q`, where the first `passed` characters belong to a
name that has been taken already. A reference leaves the marks of its value, which is not read
again. -/
def marked (env : Environment) : (q : Quoting) → (passed : Nat) → List Char → List Mark
  | _, _, [] => []
  | q, passed + 1, _ :: rest => marked env q passed rest
  | q, 0, c :: rest =>
    if c = '$' ∧ q.admits = true ∧ nameAfter rest ≠ [] then
      (env.get (String.ofList (nameAfter rest))).toList.map (Mark.ofValueChar (q != .bare)) ++
        marked env q (nameAfter rest).length rest
    else Mark.ofChar q c ++ marked env (q.step c) 0 rest

/-- A part of a line: a word without its quotes, or a `|` between stages. -/
inductive Item where
  /-- A bar between stages. -/
  | bar
  /-- A word. -/
  | word (text : List Char)
  deriving DecidableEq, Repr

namespace Item

/-- The word that has been collected, if there is one. -/
def ofWord? : Option (List Char) → List Item
  | none => []
  | some text => [.word text]

/-- What a token is once its quotes are removed. -/
def ofToken (token : Token) : Item :=
  if token = pipe then .bar else .word (unquote token)

end Item

/-- Divide marked characters at active blanks and bars, where `word` has been collected so far. -/
def divide : (word : Option (List Char)) → List Mark → List Item
  | word, [] => Item.ofWord? word
  | word, .opening :: rest => divide (some (word.getD [])) rest
  | word, .inert c :: rest => divide (some (word.getD [] ++ [c])) rest
  | word, .active c :: rest =>
    if c = '|' then Item.ofWord? word ++ .bar :: divide none rest
    else if Text.isBlank c then Item.ofWord? word ++ divide none rest
    else divide (some (word.getD [] ++ [c])) rest

/-! ## Marks of plain text -/

theorem marks_append (q : Quoting) (as bs : List Char) :
    marks q (as ++ bs) = marks q as ++ marks (q.run as) bs := by
  induction as generalizing q with
  | nil => rfl
  | cons a as ih => rw [List.cons_append, marks, marks, ih, Quoting.run_cons, List.append_assoc]

/-- Inside quotes a character leaves what quote removal leaves of it. -/
theorem Mark.ofChar_eq_map_left {q : Quoting} (h : q ≠ .bare) (c : Char) :
    Mark.ofChar q c = (left q c).map .inert := by
  cases q with
  | bare => exact absurd rfl h
  | single => simp only [Mark.ofChar, left]; split_ifs <;> rfl
  | double => simp only [Mark.ofChar, left]; split_ifs <;> rfl
  | escape => simp only [Mark.ofChar, left, unescaped]; split_ifs <;> rfl

theorem divide_map_inert (text cs : List Char) (rest : List Mark) :
    divide (some text) (cs.map .inert ++ rest) = divide (some (text ++ cs)) rest := by
  induction cs generalizing text with
  | nil => rw [List.map_nil, List.nil_append, List.append_nil]
  | cons c cs ih =>
    rw [List.map_cons, List.cons_append, divide, Option.getD_some, ih, List.append_assoc]
    rfl

namespace Remover

@[simp]
theorem quoting_run (r : Remover) (cs : List Char) :
    (r.run cs).quoting = r.quoting.run cs := by
  induction cs generalizing r with
  | nil => rfl
  | cons c cs ih => exact ih (r.step c)

/-- The quotes of a closed text are all removed at its end. -/
theorem unquote_eq_of_isClosed {cs : List Char} (h : IsClosed cs) :
    unquote cs = (start.run cs).text.reverse := by
  have hq : (start.run cs).quoting = .bare := (quoting_run _ _).trans h
  rw [unquote_eq_finish, finish, if_neg (by rw [hq]; decide)]

end Remover

namespace Splitter

/-- The word of the token being collected, without its quotes, if one has begun. -/
def word? (s : Splitter) : Option (List Char) :=
  if s.current = [] then none else some (Remover.start.run s.current.reverse).text.reverse

theorem word?_cons (q : Quoting) (c : Char) (s : Splitter) (hs : s.Sound) :
    (Splitter.mk q (c :: s.current) s.tokens).word? =
      some (s.word?.getD [] ++ left s.quoting c) := by
  have htext : s.word?.getD [] = (Remover.start.run s.current.reverse).text.reverse := by
    unfold word?
    split_ifs with h
    · rw [h]
      rfl
    · rfl
  have hq : (Remover.start.run s.current.reverse).quoting = s.quoting := by
    rw [Remover.quoting_run]
    exact hs.quoting_current
  rw [word?, if_neg (List.cons_ne_nil _ _), List.reverse_cons, Remover.run_append, htext]
  change some (Remover.step _ c).text.reverse = _
  rw [Remover.step, hq, List.reverseAux_eq, List.reverse_append, List.reverse_reverse]

/-- What has been finished, once the current token is finished too. -/
theorem items_flushed {s : Splitter} (hs : s.Sound) (hq : s.quoting = .bare) :
    s.flushed.reverse.map Item.ofToken =
      s.tokens.reverse.map Item.ofToken ++ Item.ofWord? s.word? := by
  by_cases h : s.current = []
  · simp [flushed, word?, h, Item.ofWord?]
  · have hclosed : IsClosed s.current.reverse := hs.quoting_current.trans hq
    have hpipe : s.current.reverse ≠ pipe := by
      intro heq
      apply hs.head_ne_bar
      rw [heq]
      rfl
    have hflushed : s.flushed = s.current.reverse :: s.tokens := by simp [flushed, h]
    rw [hflushed, word?, if_neg h, List.reverse_cons, List.map_append, List.map_singleton,
      Item.ofToken, if_neg hpipe, Remover.unquote_eq_of_isClosed hclosed]
    rfl

/-- A splitter divides the marks of the text it takes. -/
theorem items_run {s : Splitter} (hs : s.Sound) {cs : List Char}
    (hclosed : s.quoting.run cs = .bare) :
    (s.run cs).flushed.reverse.map Item.ofToken =
      s.tokens.reverse.map Item.ofToken ++ divide s.word? (marks s.quoting cs) := by
  induction cs generalizing s with
  | nil => exact items_flushed hs hclosed
  | cons c rest ih =>
    have hstep := ih (hs.step c) (by rw [quoting_step]; exact hclosed)
    change ((s.step c).run rest).flushed.reverse.map Item.ofToken = _
    rw [hstep, quoting_step, marks]
    -- The text that is left plays no part any more; what matters is how `c` stands.
    clear hstep ih
    by_cases hq : s.quoting = .bare
    · -- Outside quotes `c` opens one, is a bar, ends a word, or belongs to a word.
      rw [hq, Mark.ofChar]
      by_cases hquote : c = '\'' ∨ c = '"'
      · have hnext : s.step c = ⟨Quoting.bare.step c, c :: s.current, s.tokens⟩ := by
          rcases hquote with rfl | rfl <;> simp [step, hq] <;> decide
        have hleft : left s.quoting c = [] := by simp [hq, left, hquote]
        rw [if_pos hquote, hnext, word?_cons _ _ _ hs, hleft, List.append_nil]
        rfl
      rw [if_neg hquote, List.singleton_append, divide]
      by_cases hbar : c = '|'
      · have hnext : s.step c = ⟨.bare, [], pipe :: s.flushed⟩ := by simp [step, hq, hbar]
        rw [if_pos hbar, hnext, hbar, List.reverse_cons, List.map_append, items_flushed hs hq,
          List.append_assoc, List.append_assoc]
        rfl
      by_cases hblank : Text.isBlank c = true
      · have hnext : s.step c = ⟨.bare, [], s.flushed⟩ := by simp [step, hq, hbar, hblank]
        rw [if_neg hbar, if_pos hblank, hnext, items_flushed hs hq, List.append_assoc,
          Quoting.step_bare_of_isBlank hblank]
        rfl
      · have hnext : s.step c = ⟨Quoting.bare.step c, c :: s.current, s.tokens⟩ := by
          simp [step, hq, hbar, hblank]
        have hleft : left s.quoting c = [c] := by simp [hq, left, hquote]
        rw [if_neg hbar, if_neg hblank, hnext, word?_cons _ _ _ hs, hleft]
    · -- Inside quotes a word has begun, with the quote at the latest, and `c` cannot end it.
      have hcurrent : s.current ≠ [] := fun h => hq (hs.quoting_eq_bare_of_nil h)
      have hnext : s.step c = ⟨s.quoting.step c, c :: s.current, s.tokens⟩ := by
        simp [step, hq]
      obtain ⟨text, htext⟩ : ∃ text, s.word? = some text := by
        exact ⟨_, if_neg hcurrent⟩
      rw [hnext, word?_cons _ _ _ hs, Mark.ofChar_eq_map_left hq, htext, divide_map_inert]
      rfl

end Splitter

/-- To split a closed text and remove the quotes of its tokens is to divide its marks. -/
theorem divide_marks {cs : List Char} (h : IsClosed cs) {tokens : List Token}
    (htokens : tokenize cs = .ok tokens) :
    tokens.map Item.ofToken = divide none (marks .bare cs) := by
  rw [tokenize_eq_ok h] at htokens
  rw [← Except.ok.inj htokens]
  exact Splitter.items_run Splitter.sound_start h

/-! ## Marks of references -/

/-- Where a `$` begins no reference, characters leave marks as if there were none. -/
theorem marked_of_not_admits (env : Environment) {q : Quoting} (h : q.admits = false) (c : Char)
    (rest : List Char) :
    marked env q 0 (c :: rest) = Mark.ofChar q c ++ marked env (q.step c) 0 rest := by
  rw [marked, if_neg]
  rintro ⟨-, hadmits, -⟩
  rw [h] at hadmits
  cases hadmits

/-- No reference reaches into a text that does not go on with a name. -/
theorem marked_append (env : Environment) (q : Quoting) {passed : Nat} {as bs : List Char}
    (hpassed : passed ≤ as.length) (h : ∀ c ∈ bs.head?, c ≠ '?' ∧ Text.isNameChar c = false) :
    marked env q passed (as ++ bs) =
      marked env q passed as ++ marked env (q.run (as.drop passed)) 0 bs := by
  induction as generalizing q passed with
  | nil =>
    obtain rfl : passed = 0 := Nat.le_zero.mp hpassed
    rfl
  | cons a as ih =>
    cases passed with
    | succ passed => exact ih q (Nat.le_of_succ_le_succ hpassed)
    | zero =>
      rw [List.cons_append, marked, marked, nameAfter_append as h]
      split_ifs with href
      · -- The name is among the characters of the first text.
        obtain ⟨rfl, hq, -⟩ := href
        have hname : (nameAfter as).length ≤ as.length := by
          rw [← take_length_nameAfter]
          exact List.length_take_le' _ _
        rw [ih q hname, Quoting.run_drop_nameAfter hq, List.drop_zero, Quoting.run_cons,
          Quoting.step_of_admits hq (.inl rfl), List.append_assoc]
      · rw [ih (q.step a) (Nat.zero_le _), List.drop_zero, List.drop_zero, Quoting.run_cons,
          List.append_assoc]

/-- Marked texts that are divided alike, whatever word has been collected before them. -/
def DividedAlike (as bs : List Mark) : Prop :=
  ∀ word, divide word as = divide word bs

namespace DividedAlike

theorem append_left {as bs : List Mark} (h : DividedAlike as bs) (front : List Mark) :
    DividedAlike (front ++ as) (front ++ bs) := by
  induction front with
  | nil => exact h
  | cons mark front ih =>
    intro word
    cases mark with
    | opening => exact ih _
    | inert c => exact ih _
    | active c =>
      rw [List.cons_append, List.cons_append, divide, divide]
      split_ifs
      · rw [ih]
      · rw [ih]
      · exact ih _

/-- An inert character is a sign that there is a word by itself. -/
theorem opening_inert (c : Char) (rest : List Mark) :
    DividedAlike (.opening :: .inert c :: rest) (.inert c :: rest) := fun _ => rfl

/-- The characters that stand for one of a value are divided like its mark. -/
theorem marks_guarded {q : Quoting} (h : q.admits = true) (c : Char) (rest : List Mark) :
    DividedAlike (marks q (guarded (q != .bare) c) ++ rest)
      (Mark.ofValueChar (q != .bare) c :: rest) := by
  cases q with
  | single => cases h
  | escape => cases h
  | bare =>
    by_cases hs : c = '\''
    · subst hs
      exact opening_inert '\'' rest
    by_cases hd : c = '"'
    · subst hd
      exact opening_inert '"' rest
    · intro word
      simp [guarded, marks, Mark.ofChar, Mark.ofValueChar, hs, hd]
  | double =>
    intro word
    by_cases hc : c = '"' ∨ c = '\\' ∨ c = '$'
    · rcases hc with rfl | rfl | rfl <;> rfl
    · simp only [not_or] at hc
      simp [guarded, marks, Mark.ofChar, Mark.ofValueChar, hc.1, hc.2.1, hc.2.2]

theorem marks_guardedValue {q : Quoting} (h : q.admits = true) (value : List Char)
    (rest : List Mark) :
    DividedAlike (marks q (guardedValue (q != .bare) value) ++ rest)
      (value.map (Mark.ofValueChar (q != .bare)) ++ rest) := by
  induction value with
  | nil => exact fun _ => rfl
  | cons c value ih =>
    intro word
    have hhead := marks_guarded h c
      (marks q (guardedValue (q != .bare) value) ++ rest) word
    rw [guardedValue, List.flatMap_cons, marks_append, Quoting.run_guarded h, List.append_assoc]
    exact hhead.trans (ih.append_left [_] word)

end DividedAlike

/-- The marks of a text with references divide like the marks of its expansion. -/
theorem dividedAlike_marked (env : Environment) (q : Quoting) (passed : Nat) (cs : List Char) :
    DividedAlike (marks q (expandFrom env q passed cs)) (marked env q passed cs) := by
  induction cs generalizing q passed with
  | nil => simp [DividedAlike, expandFrom, piecesFrom, marks, marked]
  | cons c rest ih =>
    cases passed with
    | succ passed => exact ih q passed
    | zero =>
      rw [expandFrom, piecesFrom, marked]
      split_ifs with h
      · -- The text that stands for the value is divided like its marks, whatever comes after it.
        obtain ⟨rfl, hq, -⟩ := h
        rw [List.flatMap_cons, Piece.text, marks_append, Quoting.run_guardedValue hq]
        intro word
        have hvalue := DividedAlike.marks_guardedValue hq
          (env.get (String.ofList (nameAfter rest))).toList
          (marks q (expandFrom env q (nameAfter rest).length rest)) word
        exact hvalue.trans ((ih q (nameAfter rest).length).append_left _ word)
      · rw [List.flatMap_cons, Piece.text, List.singleton_append, marks]
        exact (ih (q.step c) 0).append_left _

/-- The words that a token expands to are found in its marks. -/
theorem divide_marked (env : Environment) {token : Token} (h : IsClosed token)
    {words : List Token} (hwords : tokenize (expand env token) = .ok words) :
    words.map Item.ofToken = divide none (marked env .bare 0 token) := by
  rw [divide_marks ((isClosed_expand_iff env token).mpr h) hwords, expand_eq_expandFrom]
  exact dividedAlike_marked env .bare 0 token none

end CommandShell.Line
