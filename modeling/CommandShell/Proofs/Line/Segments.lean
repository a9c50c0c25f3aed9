import CommandShell.Proofs.Line.Marks
import Mathlib.Data.List.Basic

/-!
# The value of a text

A text that closes its quotes consists of segments, each of them in single quotes, in double quotes
or outside quotes (`Segmented`, `exists_segmented`). Its value is made up of the values of these
(`Segment.value`): text in single quotes stands for itself, and elsewhere references to variables
are replaced by their values, which are not read again; in double quotes backslashes escape.

To expand a text and remove its quotes afterwards gives this value (`unquote_expand_eq_valueOf`),
although the quotes are removed from a text in which the values of the variables stand among what
was written.
-/

namespace CommandShell.Line

/-! ## Segments -/

/-- A part of a text. -/
inductive Segment where
  /-- Text outside quotes. -/
  | bare (text : List Char)
  /-- Text in single quotes. -/
  | single (text : List Char)
  /-- Text in double quotes. -/
  | double (text : List Char)
  deriving DecidableEq, Repr

/-- A text that can stand in double quotes: no quote closes it, unless it is escaped. -/
inductive IsDoubleText : List Char → Prop
  | nil : IsDoubleText []
  /-- A character that is neither a quote nor a backslash. -/
  | char {c : Char} {rest : List Char} (hquote : c ≠ '"') (hbackslash : c ≠ '\\')
      (h : IsDoubleText rest) : IsDoubleText (c :: rest)
  /-- A backslash with the character after it. -/
  | escaped {c : Char} {rest : List Char} (h : IsDoubleText rest) :
      IsDoubleText ('\\' :: c :: rest)

/-- The text consists of the segments. Text outside quotes reaches as far as it can. -/
inductive Segmented : List Char → List Segment → Prop
  | nil : Segmented [] []
  | bare {text cs : List Char} {segments : List Segment} (hne : text ≠ [])
      (htext : ∀ c ∈ text, c ≠ '\'' ∧ c ≠ '"') (hnext : ∀ c ∈ cs.head?, c = '\'' ∨ c = '"')
      (rest : Segmented cs segments) : Segmented (text ++ cs) (.bare text :: segments)
  | single {text cs : List Char} {segments : List Segment} (htext : '\'' ∉ text)
      (rest : Segmented cs segments) :
      Segmented ('\'' :: text ++ '\'' :: cs) (.single text :: segments)
  | double {text cs : List Char} {segments : List Segment} (htext : IsDoubleText text)
      (rest : Segmented cs segments) :
      Segmented ('"' :: text ++ '"' :: cs) (.double text :: segments)

/-! ## Values -/

/-- What a backslash in double quotes stands for together with the text after it: with `n` or `t`
for a newline or a tab, with a quote, a backslash or a `$` for these, and otherwise for itself and
the character after it. -/
def escapeBefore : List Char → List Char
  | [] => ['\\']
  | 'n' :: _ => ['\n']
  | 't' :: _ => ['\t']
  | '"' :: _ => ['"']
  | '\\' :: _ => ['\\']
  | '$' :: _ => ['$']
  | c :: _ => ['\\', c]

/-- A text in which references are replaced by the values of the variables, and escapes as well if
there are any. The first `passed` characters have been taken already. -/
def resolve (env : Environment) (escapes : Bool) : (passed : Nat) → List Char → List Char
  | _, [] => []
  | passed + 1, _ :: rest => resolve env escapes passed rest
  | 0, c :: rest =>
    if c = '$' ∧ nameAfter rest ≠ [] then
      (env.get (String.ofList (nameAfter rest))).toList ++
        resolve env escapes (nameAfter rest).length rest
    else if c = '\\' ∧ escapes = true then escapeBefore rest ++ resolve env escapes 1 rest
    else c :: resolve env escapes 0 rest

/-- What a segment stands for. -/
def Segment.value (env : Environment) : Segment → List Char
  | .bare text => resolve env false 0 text
  | .single text => text
  | .double text => resolve env true 0 text

/-- What a text stands for that consists of the segments. -/
def valueOf (env : Environment) (segments : List Segment) : List Char :=
  segments.flatMap (Segment.value env)

/-! ## Every text consists of segments -/

/-- Single quotes that are closed are closed by the next quote. -/
theorem exists_single {cs : List Char} (h : Quoting.single.run cs = .bare) :
    ∃ text rest, cs = text ++ '\'' :: rest ∧ '\'' ∉ text ∧ IsClosed rest := by
  induction cs with
  | nil => cases h
  | cons c cs ih =>
    by_cases hquote : c = '\''
    · subst hquote
      exact ⟨[], cs, rfl, List.not_mem_nil, h⟩
    · have hstep : Quoting.single.step c = .single := if_neg hquote
      rw [Quoting.run_cons, hstep] at h
      obtain ⟨text, rest, rfl, htext, hrest⟩ := ih h
      exact ⟨c :: text, rest, rfl, List.not_mem_cons_of_ne_of_not_mem (Ne.symm hquote) htext, hrest⟩

/-- Double quotes that are closed are closed by the next quote that is not escaped. -/
theorem exists_double {cs : List Char} (h : Quoting.double.run cs = .bare) :
    ∃ text rest, cs = text ++ '"' :: rest ∧ IsDoubleText text ∧ IsClosed rest := by
  -- A backslash takes the next character with it, so that two characters may be taken at once.
  induction hn : cs.length using Nat.strongRecOn generalizing cs with
  | ind n ih =>
    cases cs with
    | nil => cases h
    | cons c cs =>
      by_cases hquote : c = '"'
      · subst hquote
        exact ⟨[], cs, rfl, .nil, h⟩
      by_cases hbackslash : c = '\\'
      · subst hbackslash
        cases cs with
        | nil => cases h
        | cons d cs =>
          have hshorter : cs.length < n := by rw [← hn, List.length_cons, List.length_cons]; omega
          have hopen : Quoting.double.run cs = .bare := h
          obtain ⟨text, rest, rfl, htext, hrest⟩ := ih cs.length hshorter hopen rfl
          exact ⟨'\\' :: d :: text, rest, rfl, .escaped htext, hrest⟩
      · have hstep : Quoting.double.step c = .double := by
          simp [Quoting.step, hquote, hbackslash]
        rw [Quoting.run_cons, hstep] at h
        obtain ⟨text, rest, rfl, htext, hrest⟩ := ih cs.length (by simp [← hn]) h rfl
        exact ⟨c :: text, rest, rfl, .char hquote hbackslash htext, hrest⟩

/-- A character outside quotes in front of a text belongs to the segment that the text begins with,
if that is outside quotes too, and else is one by itself. -/
theorem Segmented.cons {c : Char} {cs : List Char} {segments : List Segment}
    (h : Segmented cs segments) (hc : c ≠ '\'' ∧ c ≠ '"') :
    ∃ segments, Segmented (c :: cs) segments := by
  have hone : ∀ d ∈ [c], d ≠ '\'' ∧ d ≠ '"' := List.forall_mem_singleton.mpr hc
  have hempty : [c] ≠ [] := List.cons_ne_nil c []
  cases h with
  | nil => exact ⟨_, .bare hempty hone (fun d hd => by cases hd) .nil⟩
  | bare hne htext hnext rest =>
    exact ⟨_, .bare (List.cons_ne_nil c _) (List.forall_mem_cons.mpr ⟨hc, htext⟩) hnext rest⟩
  | single htext rest =>
    refine ⟨_, .bare hempty hone (fun d hd => ?_) (.single htext rest)⟩
    exact .inl (Option.some.inj hd).symm
  | double htext rest =>
    refine ⟨_, .bare hempty hone (fun d hd => ?_) (.double htext rest)⟩
    exact .inr (Option.some.inj hd).symm

/-- A text that closes its quotes consists of segments. -/
theorem exists_segmented {cs : List Char} (h : IsClosed cs) :
    ∃ segments, Segmented cs segments := by
  -- Quoted text is taken as a whole, so that the induction is on the length.
  induction hn : cs.length using Nat.strongRecOn generalizing cs with
  | ind n ih =>
    cases cs with
    | nil => exact ⟨[], .nil⟩
    | cons c cs =>
      by_cases hsingle : c = '\''
      · subst hsingle
        obtain ⟨text, rest, rfl, htext, hrest⟩ := exists_single h
        have hshorter : rest.length < n := by
          rw [← hn, List.length_cons, List.length_append, List.length_cons]
          omega
        obtain ⟨segments, hsegments⟩ := ih rest.length hshorter hrest rfl
        exact ⟨.single text :: segments, .single htext hsegments⟩
      by_cases hdouble : c = '"'
      · subst hdouble
        obtain ⟨text, rest, rfl, htext, hrest⟩ := exists_double h
        have hshorter : rest.length < n := by
          rw [← hn, List.length_cons, List.length_append, List.length_cons]
          omega
        obtain ⟨segments, hsegments⟩ := ih rest.length hshorter hrest rfl
        exact ⟨.double text :: segments, .double htext hsegments⟩
      · have hstep := Quoting.step_bare_of_ne hsingle hdouble
        rw [IsClosed, Quoting.run_cons, hstep] at h
        obtain ⟨segments, hsegments⟩ := ih cs.length (by simp [← hn]) h rfl
        exact hsegments.cons ⟨hsingle, hdouble⟩

/-! ## The value of a text is what it expands to without its quotes -/

/-- The character that a mark stands for, if it stands for one. -/
def Mark.text : Mark → List Char
  | .active c | .inert c => [c]
  | .opening => []

/-- The characters that some marks stand for. -/
def textOf (marks : List Mark) : List Char :=
  marks.flatMap Mark.text

@[simp]
theorem textOf_append (as bs : List Mark) : textOf (as ++ bs) = textOf as ++ textOf bs :=
  List.flatMap_append

/-- A character leaves in the text what quote removal leaves of it. -/
theorem textOf_ofChar (q : Quoting) (c : Char) : textOf (Mark.ofChar q c) = left q c := by
  cases q with
  | bare =>
    rw [Mark.ofChar, left]
    split <;> rfl
  | single =>
    rw [Mark.ofChar, left]
    split <;> rfl
  | double =>
    rw [Mark.ofChar, left]
    split <;> rfl
  | escape =>
    rw [Mark.ofChar, left, unescaped]
    split_ifs <;> rfl

theorem textOf_map_ofValueChar (quoted : Bool) (value : List Char) :
    textOf (value.map (Mark.ofValueChar quoted)) = value := by
  rw [textOf, List.flatMap_map]
  have hchar : ∀ c ∈ value, (Mark.ofValueChar quoted c).text = [c] := by
    intro c _
    rw [Mark.ofValueChar]
    split <;> rfl
  rw [List.flatMap_congr hchar, List.flatMap_singleton']

/-- Quote removal leaves the text of the marks. -/
theorem unquote_eq_textOf_marks {cs : List Char} (h : IsClosed cs) :
    unquote cs = textOf (marks .bare cs) := by
  -- From any state on, the text of the marks is added to what is there.
  have hrun (r : Remover) : (r.run cs).text.reverse =
      r.text.reverse ++ textOf (marks r.quoting cs) := by
    clear h
    induction cs generalizing r with
    | nil => exact (List.append_nil _).symm
    | cons c cs ih =>
      change ((r.step c).run cs).text.reverse = _
      rw [ih, marks, textOf_append, textOf_ofChar, Remover.step, List.reverseAux_eq,
        List.reverse_append, List.reverse_reverse, List.append_assoc]
  rw [Remover.unquote_eq_of_isClosed h]
  exact hrun .start

/-- The characters that are inserted for a value leave the value. -/
theorem textOf_marks_guardedValue {q : Quoting} (h : q.admits = true) (value : List Char) :
    textOf (marks q (guardedValue (q != .bare) value)) = value := by
  -- Each character is guarded by itself, in double quotes otherwise than outside quotes.
  have hguarded (c : Char) : textOf (marks q (guarded (q != .bare) c)) = [c] := by
    cases q with
    | single => cases h
    | escape => cases h
    | bare =>
      by_cases hs : c = '\''
      · subst hs
        rfl
      by_cases hd : c = '"'
      · subst hd
        rfl
      · simp [guarded, marks, Mark.ofChar, hs, hd, textOf, Mark.text]
    | double =>
      by_cases hc : c = '"' ∨ c = '\\' ∨ c = '$'
      · rcases hc with rfl | rfl | rfl <;> rfl
      · simp only [not_or] at hc
        simp [guarded, marks, Mark.ofChar, hc.1, hc.2.1, hc.2.2, textOf, Mark.text]
  induction value with
  | nil => rfl
  | cons c value ih =>
    rw [guardedValue, List.flatMap_cons, marks_append, Quoting.run_guarded h, textOf_append,
      hguarded]
    exact congrArg (c :: ·) ih

/-- The text of the marks of a text with references is that of its expansion. -/
theorem textOf_marks_expandFrom (env : Environment) (q : Quoting) (passed : Nat)
    (cs : List Char) :
    textOf (marks q (expandFrom env q passed cs)) = textOf (marked env q passed cs) := by
  induction cs generalizing q passed with
  | nil => simp [expandFrom, piecesFrom, marks, marked]
  | cons c rest ih =>
    cases passed with
    | succ passed => exact ih q passed
    | zero =>
      rw [expandFrom, piecesFrom, marked]
      split_ifs with h
      · -- Behind the value, reading goes on in the state in which the reference began.
        obtain ⟨rfl, hq, -⟩ := h
        rw [List.flatMap_cons, Piece.text, marks_append, Quoting.run_guardedValue hq,
          textOf_append, textOf_marks_guardedValue hq, textOf_append, textOf_map_ofValueChar]
        exact congrArg (_ ++ ·) (ih q (nameAfter rest).length)
      · rw [List.flatMap_cons, Piece.text, List.singleton_append, marks, textOf_append,
          textOf_append]
        exact congrArg (_ ++ ·) (ih (q.step c) 0)

/-- What a token expands to without its quotes is found in one pass over it. -/
theorem unquote_expand (env : Environment) {token : Token} (h : IsClosed token) :
    unquote (expand env token) = textOf (marked env .bare 0 token) := by
  rw [unquote_eq_textOf_marks ((isClosed_expand_iff env token).mpr h), expand_eq_expandFrom,
    textOf_marks_expandFrom]

/-! ## Values of segments -/

/-- Outside quotes, one pass over a text resolves its references. -/
theorem textOf_marked_bare (env : Environment) (passed : Nat) {text : List Char}
    (h : ∀ c ∈ text, c ≠ '\'' ∧ c ≠ '"') :
    textOf (marked env .bare passed text) = resolve env false passed text := by
  induction text generalizing passed with
  | nil => cases passed <;> rfl
  | cons c rest ih =>
    have hrest := fun passed => ih passed fun d hd => h d (List.mem_cons_of_mem c hd)
    cases passed with
    | succ passed => exact hrest passed
    | zero =>
      obtain ⟨hsingle, hdouble⟩ := h c List.mem_cons_self
      have hadmits : Quoting.bare.admits = true := rfl
      rw [marked, resolve]
      simp only [hadmits, true_and, Bool.false_eq_true, and_false, if_false]
      split_ifs with hname
      · rw [textOf_append, textOf_map_ofValueChar, hrest]
      · rw [textOf_append, textOf_ofChar, Quoting.step_bare_of_ne hsingle hdouble, hrest]
        simp [left, hsingle, hdouble]

/-- In double quotes the text goes on behind characters that are neither quotes nor backslashes. -/
theorem IsDoubleText.of_append {as bs : List Char} (h : IsDoubleText (as ++ bs))
    (has : ∀ c ∈ as, c ≠ '\\') : IsDoubleText bs := by
  induction as with
  | nil => exact h
  | cons a as ih =>
    obtain ⟨ha, hrest⟩ := List.forall_mem_cons.mp has
    rw [List.cons_append] at h
    generalize as ++ bs = cs at h ih
    cases h with
    | char hquote hbackslash h => exact ih h hrest
    | escaped h => exact absurd rfl ha

theorem IsDoubleText.drop_nameAfter {cs : List Char} (h : IsDoubleText cs) :
    IsDoubleText (cs.drop (nameAfter cs).length) := by
  rw [← List.take_append_drop (nameAfter cs).length cs, take_length_nameAfter] at h
  refine h.of_append fun c hc => ?_
  rintro rfl
  exact absurd (mem_nameAfter hc) (by decide)

/-- A character after a backslash in double quotes leaves what the two of them stand for. -/
theorem left_escape (c : Char) (rest : List Char) :
    left .escape c = escapeBefore (c :: rest) := by
  rw [left, unescaped]
  split_ifs with hn ht hc
  · rw [hn]
    rfl
  · rw [ht]
    rfl
  · rcases hc with rfl | rfl | rfl <;> rfl
  · rw [escapeBefore.eq_def]
    split <;> simp_all

theorem map_ofValueChar_true (value : List Char) :
    value.map (Mark.ofValueChar true) = value.map .inert :=
  List.map_congr_left fun _ _ => if_pos (.inl rfl)

/-- In double quotes, one pass over a text resolves its references and escapes, and leaves no active
characters. -/
theorem marked_double (env : Environment) (passed : Nat) {text : List Char}
    (h : IsDoubleText (text.drop passed)) :
    marked env .double passed text = (resolve env true passed text).map .inert := by
  induction text generalizing passed with
  | nil => cases passed <;> rfl
  | cons c rest ih =>
    cases passed with
    | succ passed => exact ih passed h
    | zero =>
      have hadmits : Quoting.double.admits = true := rfl
      have hquoted : (Quoting.double != .bare) = true := rfl
      rw [List.drop_zero] at h
      rw [marked, resolve, hquoted, map_ofValueChar_true]
      simp only [hadmits, true_and, and_true]
      cases h with
      | char hquote hbackslash h =>
        rw [if_neg hbackslash]
        split_ifs with hname
        · rw [ih _ h.drop_nameAfter, List.map_append]
        · have hstep : Quoting.double.step c = .double := by
            simp [Quoting.step, hquote, hbackslash]
          have hmark : Mark.ofChar .double c = [.inert c] := by
            simp [Mark.ofChar, hquote, hbackslash]
          rw [hstep, hmark, ih 0 h]
          rfl
      | @escaped d rest h =>
        -- The backslash leaves nothing, and takes the next character with it.
        have hdollar : ¬('\\' = '$' ∧ nameAfter (d :: rest) ≠ []) := fun h => absurd h.1 (by decide)
        have hstep : Quoting.double.step '\\' = .escape := rfl
        have hmark : Mark.ofChar .double '\\' = [] := rfl
        rw [if_neg hdollar, if_neg hdollar, if_pos rfl, List.map_append, ← ih 1 h, hstep, hmark,
          List.nil_append, marked_of_not_admits env rfl, ← left_escape d rest,
          Mark.ofChar_eq_map_left (by decide)]
        rfl

theorem textOf_map_inert (cs : List Char) : textOf (cs.map .inert) = cs := by
  rw [textOf, List.flatMap_map]
  exact List.flatMap_singleton' cs

/-- In single quotes, characters stand for themselves. -/
theorem textOf_marked_single (env : Environment) {text : List Char} (h : '\'' ∉ text)
    (rest : List Char) :
    textOf (marked env .single 0 (text ++ '\'' :: rest)) =
      text ++ textOf (marked env .bare 0 rest) := by
  induction text with
  | nil =>
    rw [List.nil_append, marked_of_not_admits env rfl]
    rfl
  | cons c text ih =>
    obtain ⟨hquote, htext⟩ := not_or.mp (mt List.mem_cons.mpr h)
    have hstep : Quoting.single.step c = .single := if_neg (Ne.symm hquote)
    have hleft : left .single c = [c] := if_neg (Ne.symm hquote)
    rw [List.cons_append, marked_of_not_admits env rfl, hstep, textOf_append, textOf_ofChar,
      hleft, ih htext]
    rfl

/-- Text in double quotes leaves them open. -/
theorem IsDoubleText.run {text : List Char} (h : IsDoubleText text) :
    Quoting.double.run text = .double := by
  induction h with
  | nil => rfl
  | char hquote hbackslash _ ih =>
    rw [Quoting.run_cons, Quoting.step, if_neg hquote, if_neg hbackslash]
    exact ih
  | escaped _ ih => exact ih

/-- A quote goes on with no name. -/
theorem quote_ends_name {c : Char} (h : c = '\'' ∨ c = '"') :
    c ≠ '?' ∧ Text.isNameChar c = false := by
  rcases h with rfl | rfl <;> decide

/-- One pass over a text that consists of segments finds their values. -/
theorem textOf_marked_eq_valueOf (env : Environment) {cs : List Char} {segments : List Segment}
    (h : Segmented cs segments) :
    textOf (marked env .bare 0 cs) = valueOf env segments := by
  induction h with
  | nil => rfl
  | @bare text cs segments _ htext hnext _ ih =>
    rw [marked_append env .bare (Nat.zero_le _) fun c hc => quote_ends_name (hnext c hc),
      List.drop_zero, Quoting.run_bare_of_ne htext, textOf_append, ih,
      textOf_marked_bare env 0 htext]
    rfl
  | @single text cs segments htext _ ih =>
    have hopening : marked env .bare 0 ('\'' :: (text ++ '\'' :: cs)) =
        .opening :: marked env .single 0 (text ++ '\'' :: cs) := rfl
    rw [List.cons_append, hopening]
    refine (textOf_marked_single env htext cs).trans ?_
    rw [ih]
    rfl
  | @double text cs segments htext _ ih =>
    -- No name goes on across the closing quote, so the text within can be taken alone.
    have hopening : marked env .bare 0 ('"' :: (text ++ '"' :: cs)) =
        .opening :: marked env .double 0 (text ++ '"' :: cs) := rfl
    have hclosing : marked env .double 0 ('"' :: cs) = marked env .bare 0 cs := rfl
    have hquote : ∀ c ∈ ('"' :: cs).head?, c ≠ '?' ∧ Text.isNameChar c = false :=
      fun c hc => quote_ends_name (.inr (Option.some.inj hc).symm)
    rw [List.cons_append, hopening, marked_append env .double (Nat.zero_le _) hquote,
      List.drop_zero, htext.run, hclosing]
    refine (textOf_append _ _).trans ?_
    rw [ih, marked_double env 0 htext, textOf_map_inert]
    rfl

/-- To expand a text and remove its quotes gives the value of its segments. -/
theorem unquote_expand_eq_valueOf (env : Environment) {cs : List Char} {segments : List Segment}
    (hclosed : IsClosed cs) (h : Segmented cs segments) :
    unquote (expand env cs) = valueOf env segments := by
  rw [unquote_expand env hclosed, textOf_marked_eq_valueOf env h]

end CommandShell.Line
