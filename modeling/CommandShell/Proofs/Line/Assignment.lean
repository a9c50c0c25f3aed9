import CommandShell.Proofs.Line.Faults
import CommandShell.Proofs.Line.Joining
import CommandShell.Proofs.Line.Segments
import Mathlib.Tactic.ByContra

/-!
# Reading assignments

A line `NAME=VALUE` that is a single token assigns what the value expands to without its quotes
(`Line.parse_assignment`). A value that is a reference to a variable, with or without double quotes
around it, makes such a line (`Line.tokenize_assignment_reference`), and in double quotes it is a
single word anywhere (`Line.itemsOf_double`).
-/

namespace CommandShell

/-! ## Names -/

namespace Text

/-- The characters of names are not blank. -/
theorem isBlank_of_isNameChar {c : Char} (h : isNameChar c = true) : isBlank c = false := by
  have hrange : c.toNat = 95 ∨ (48 ≤ c.toNat ∧ c.toNat ≤ 57) ∨ (65 ≤ c.toNat ∧ c.toNat ≤ 90) ∨
      (97 ≤ c.toNat ∧ c.toNat ≤ 122) := by
    have hkind : (((c.isUpper || c.isLower) || c.isDigit) || c == '_') = true := h
    simp only [Bool.or_eq_true, beq_iff_eq] at hkind
    rcases hkind with ((hupper | hlower) | hdigit) | rfl
    · exact .inr (.inr (.inl (of_decide_eq_true hupper)))
    · have hbounds := Bool.and_eq_true_iff.mp hlower
      exact .inr (.inr (.inr ⟨of_decide_eq_true hbounds.1, of_decide_eq_true hbounds.2⟩))
    · exact .inr (.inl (Char.isDigit_iff_toNat.mp hdigit))
    · exact .inl rfl
  by_contra hblank
  rw [Bool.not_eq_false] at hblank
  simp only [isBlank, Bool.or_eq_true, Bool.and_eq_true, decide_eq_true_eq, beq_iff_eq] at hblank
  omega

/-- The characters of names are neither quotes nor backslashes nor bars. -/
theorem isPlain_of_isNameChar {c : Char} (h : isNameChar c = true) :
    (c ≠ '\'' ∧ c ≠ '"') ∧ c ≠ '\\' ∧ c ≠ '|' := by
  refine ⟨⟨?_, ?_⟩, ?_, ?_⟩ <;> (rintro rfl; revert h; decide)

theorem isNameChar_of_isIdentifier {cs : List Char} (h : isIdentifier cs = true) :
    ∀ c ∈ cs, isNameChar c = true := by
  cases cs with
  | nil => cases h
  | cons c rest =>
    rw [isIdentifier, Bool.and_eq_true, List.all_eq_true] at h
    exact List.forall_mem_cons.mpr ⟨isNameChar_of_isNameStart h.1, h.2⟩

end Text

namespace Line

/-- A whole name is taken after a `$`. -/
theorem nameAfter_of_isIdentifier {name : List Char} (h : Text.isIdentifier name = true) :
    nameAfter name = name := by
  cases name with
  | nil => cases h
  | cons c rest =>
    rw [Text.isIdentifier, Bool.and_eq_true, List.all_eq_true] at h
    have hquestion : c ≠ '?' := by
      rintro rfl
      exact absurd h.1 (by decide)
    rw [nameAfter, if_neg hquestion, if_pos h.1, List.takeWhile_eq_self_iff.mpr h.2]

/-- Nothing is left of a text that has been taken already. -/
theorem resolve_length (env : Environment) (escapes : Bool) (cs : List Char) :
    resolve env escapes cs.length cs = [] := by
  induction cs with
  | nil => rfl
  | cons c cs ih => exact ih

/-- A reference by itself resolves to the value of the variable. -/
theorem resolve_reference (env : Environment) (escapes : Bool) {name : String}
    (h : Text.isIdentifier name.toList = true) :
    resolve env escapes 0 ('$' :: name.toList) = (env.get name).toList := by
  have hname := nameAfter_of_isIdentifier h
  have hne : name.toList ≠ [] := by
    intro hnil
    rw [hnil] at h
    cases h
  rw [resolve, hname, if_pos ⟨rfl, hne⟩, resolve_length, List.append_nil, String.ofList_toList]

/-! ## Assignments of texts -/

/-- A line of a single token that is taken for an assignment assigns what the value expands to,
without its quotes. -/
theorem parse_of_assignment (env : Environment) {line : String} {token : Token}
    {name raw : List Char} (hblank : ¬Text.IsBlankText line.toList)
    (htoken : tokenize line.toList = .ok [token]) (h : assignment? token = some (name, raw))
    (hraw : raw ≠ []) :
    parse env line = .ok (.assignment (.ofList name) (.ofList (unquote (expand env raw)))) := by
  rw [parse_eq_statementOf env hblank htoken, statementOf, h]
  dsimp only
  rw [assign, List.isEmpty_eq_false_iff.mpr hraw]
  rfl

/-- A line that is a single token `NAME=VALUE` assigns what the value expands to without its quotes;
the quotes of the value are closed. -/
theorem parse_assignment (env : Environment) {name raw : String}
    (hname : Text.isIdentifier name.toList = true) (hraw : raw ≠ "")
    (htoken : tokenize (name ++ "=" ++ raw).toList = .ok [(name ++ "=" ++ raw).toList]) :
    IsClosed raw.toList ∧
      parse env (name ++ "=" ++ raw) =
        .ok (.assignment name (.ofList (unquote (expand env raw.toList)))) := by
  have hline : (name ++ "=" ++ raw).toList = name.toList ++ '=' :: raw.toList := by
    rw [String.toList_append, String.toList_append, List.append_assoc]
    rfl
  have hassignment : assignment? (name ++ "=" ++ raw).toList = some (name.toList, raw.toList) :=
    assignment?_eq_some_iff.mpr ⟨hline, hname⟩
  have hblank := not_isBlankText_of_tokenize htoken (List.cons_ne_nil _ _)
  have hempty : raw.toList ≠ [] := fun h => hraw (String.toList_inj.mp h)
  constructor
  · -- What stands before the value has no quotes, so that those of the value are closed.
    have hclosed := isClosed_of_tokenize htoken
    have hquotes : ∀ c ∈ name.toList ++ ['='], c ≠ '\'' ∧ c ≠ '"' := by
      intro c hc
      rcases List.mem_append.mp hc with hc | hc
      · exact (Text.isPlain_of_isNameChar (Text.isNameChar_of_isIdentifier hname c hc)).1
      · obtain rfl := List.mem_singleton.mp hc
        decide
    rw [IsClosed, hline, List.append_cons, Quoting.run_append,
      Quoting.run_bare_of_ne hquotes] at hclosed
    exact hclosed
  · rw [parse_of_assignment env hblank htoken hassignment hempty, String.ofList_toList]

/-! ## References as values -/

/-- A text without quotes and backslashes can stand in double quotes. -/
theorem IsDoubleText.of_plain {text : List Char} (h : ∀ c ∈ text, c ≠ '"' ∧ c ≠ '\\') :
    IsDoubleText text := by
  induction text with
  | nil => exact .nil
  | cons c text ih =>
    obtain ⟨hc, htext⟩ := List.forall_mem_cons.mp h
    exact .char hc.1 hc.2 (ih htext)

/-- Text in double quotes is solid, and its quotes are closed. -/
theorem IsDoubleText.isSolid {text : List Char} (h : IsDoubleText text) :
    IsSolid .bare ('"' :: text ++ ['"']) ∧ IsClosed ('"' :: text ++ ['"']) := by
  have hinside {q : Quoting} (hq : q ≠ .bare) (c : Char) (rest : List Char)
      (hrest : IsSolid (q.step c) rest) : IsSolid q (c :: rest) := ⟨fun h => absurd h hq, hrest⟩
  have hbody : IsSolid .double (text ++ ['"']) := by
    induction h with
    | nil => exact hinside (by decide) '"' [] trivial
    | @char c rest hquote hbackslash _ ih =>
      refine hinside (by decide) c _ ?_
      rw [Quoting.step, if_neg hquote, if_neg hbackslash]
      exact ih
    | @escaped c rest _ ih => exact hinside (by decide) '\\' _ (hinside (by decide) c _ ih)
  refine ⟨⟨fun _ => by decide, hbody⟩, ?_⟩
  change Quoting.double.run (text ++ ['"']) = .bare
  rw [Quoting.run_append, h.run]
  rfl

section References

variable {name : String} (hname : Text.isIdentifier name.toList = true)

include hname

/-- A reference has no characters that quote or separate. -/
theorem isPlain_reference :
    ∀ c ∈ '$' :: name.toList, (c ≠ '\'' ∧ c ≠ '"') ∧ c ≠ '\\' ∧ c ≠ '|' ∧
      Text.isBlank c = false := by
  refine List.forall_mem_cons.mpr ⟨by decide, fun c hc => ?_⟩
  have hchar := Text.isNameChar_of_isIdentifier hname c hc
  obtain ⟨hquotes, hbackslash, hbar⟩ := Text.isPlain_of_isNameChar hchar
  exact ⟨hquotes, hbackslash, hbar, Text.isBlank_of_isNameChar hchar⟩

theorem isDoubleText_reference : IsDoubleText ('$' :: name.toList) :=
  .of_plain fun c hc =>
    have hc := isPlain_reference hname c hc
    ⟨hc.1.2, hc.2.1⟩

end References

/-- The two ways in which a reference to a variable is written as a value, with the segment that it
is. -/
inductive IsReference (name : String) : String → Segment → Prop
  /-- Outside quotes. -/
  | bare : IsReference name ("$" ++ name) (.bare ('$' :: name.toList))
  /-- In double quotes. -/
  | double : IsReference name ("\"$" ++ name ++ "\"") (.double ('$' :: name.toList))

theorem toList_bare_reference (name : String) : ("$" ++ name).toList = '$' :: name.toList := by
  simp

theorem toList_double_reference (name : String) :
    ("\"$" ++ name ++ "\"").toList = '"' :: ('$' :: name.toList) ++ ['"'] := by
  simp

namespace IsReference

variable {name raw : String} {segment : Segment} (h : IsReference name raw segment)
  (hname : Text.isIdentifier name.toList = true)

include h

theorem ne_empty : raw ≠ "" := by
  rintro rfl
  -- The index has to be a variable before the two forms can be told apart.
  generalize hraw : "" = raw at h
  cases h with
  | bare => exact absurd (congrArg String.toList hraw) (by simp)
  | double => exact absurd (congrArg String.toList hraw) (by simp)

include hname

/-- A reference as a value is a single segment. -/
theorem segmented : Segmented raw.toList [segment] := by
  cases h with
  | bare =>
    have hsegment := Segmented.bare (List.cons_ne_nil _ _)
      (fun c hc => (isPlain_reference hname c hc).1) (fun c hc => by cases hc) .nil
    rw [toList_bare_reference]
    rwa [List.append_nil] at hsegment
  | double =>
    rw [toList_double_reference]
    exact .double (isDoubleText_reference hname) .nil

/-- Its value is that of the variable. -/
theorem value_eq (env : Environment) : segment.value env = (env.get name).toList := by
  cases h with
  | bare => exact resolve_reference env false hname
  | double => exact resolve_reference env true hname

/-- A reference as a value has no blank and no bar outside quotes. -/
theorem isSolid : IsSolid .bare raw.toList ∧ IsClosed raw.toList := by
  cases h with
  | bare =>
    have hquotes := fun c hc => (isPlain_reference hname c hc).1
    rw [toList_bare_reference]
    exact ⟨.of_plain hquotes fun c hc => (isPlain_reference hname c hc).2.2,
      Quoting.run_bare_of_ne hquotes⟩
  | double =>
    rw [toList_double_reference]
    exact (isDoubleText_reference hname).isSolid

end IsReference

/-- An assignment of a reference is a single token. -/
theorem tokenize_assignment_reference {name other raw : String} {segment : Segment}
    (hname : Text.isIdentifier name.toList = true) (hother : Text.isIdentifier other.toList = true)
    (h : IsReference other raw segment) :
    tokenize (name ++ "=" ++ raw).toList = .ok [(name ++ "=" ++ raw).toList] := by
  have hline : (name ++ "=" ++ raw).toList = (name.toList ++ ['=']) ++ raw.toList := by simp
  have hplain : ∀ c ∈ name.toList ++ ['='],
      (c ≠ '\'' ∧ c ≠ '"') ∧ c ≠ '|' ∧ Text.isBlank c = false := by
    refine List.forall_mem_append.mpr ⟨fun c hc => ?_, List.forall_mem_singleton.mpr (by decide)⟩
    have hchar := Text.isNameChar_of_isIdentifier hname c hc
    obtain ⟨hquotes, -, hbar⟩ := Text.isPlain_of_isNameChar hchar
    exact ⟨hquotes, hbar, Text.isBlank_of_isNameChar hchar⟩
  have hrun := Quoting.run_bare_of_ne fun c hc => (hplain c hc).1
  have hfront : IsSolid .bare (name.toList ++ ['=']) :=
    .of_plain (fun c hc => (hplain c hc).1) fun c hc => (hplain c hc).2
  obtain ⟨hsolid, hclosed⟩ := h.isSolid hother
  rw [hline]
  refine tokenize_of_isSolid (by simp) (hfront.append ?_) ?_
  · rwa [hrun]
  · rw [IsClosed, Quoting.run_append, hrun]
    exact hclosed

/-- A reference in double quotes is a single word, whatever the value is. -/
theorem itemsOf_double (env : Environment) {text : List Char} (h : IsDoubleText text) :
    itemsOf env ('"' :: text ++ ['"']) = [.word (resolve env true 0 text)] := by
  have hquote : ∀ c ∈ (['"'] : List Char).head?, c ≠ '?' ∧ Text.isNameChar c = false :=
    fun c hc => quote_ends_name (.inr (Option.some.inj hc).symm)
  have hopening : marked env .bare 0 ('"' :: (text ++ ['"'])) =
      .opening :: marked env .double 0 (text ++ ['"']) := rfl
  rw [itemsOf, List.cons_append, hopening, divide,
    marked_append env .double (Nat.zero_le _) hquote, marked_double env 0 h, divide_map_inert]
  rw [List.drop_zero, h.run]
  rfl

/-- `echo` with a reference in double quotes has the value of the variable as its argument. -/
theorem parse_echo (env : Environment) {name : String}
    (h : Text.isIdentifier name.toList = true) :
    parse env ("echo \"$" ++ name ++ "\"") = .ok (.pipeline [⟨"echo", [env.get name]⟩]) := by
  have htext := isDoubleText_reference h
  have hline : ("echo \"$" ++ name ++ "\"").toList =
      "echo".toList ++ ' ' :: ('"' :: ('$' :: name.toList) ++ ['"']) := by simp
  have htokens : tokenize ("echo \"$" ++ name ++ "\"").toList =
      .ok ["echo".toList, '"' :: ('$' :: name.toList) ++ ['"']] := by
    have hecho : tokenize "echo".toList = .ok ["echo".toList] := by decide
    have hword : tokenize ('"' :: ('$' :: name.toList) ++ ['"']) =
        .ok ['"' :: ('$' :: name.toList) ++ ['"']] :=
      tokenize_of_isSolid (List.cons_ne_nil _ _) htext.isSolid.1 htext.isSolid.2
    rw [hline, tokenize_append_blank hecho rfl, hword]
    rfl
  have hassignment : ∀ token, ["echo".toList, '"' :: ('$' :: name.toList) ++ ['"']] = [token] →
      assignment? token = none := by
    intro token htoken
    cases htoken
  have hecho : itemsOf env "echo".toList = [.word "echo".toList] := rfl
  rw [parse_eq_pipelineOfItems env htokens (List.cons_ne_nil _ _) hassignment, List.flatMap_cons,
    List.flatMap_singleton, hecho, itemsOf_double env htext, resolve_reference env true h]
  change Except.ok (Statement.pipeline
    [⟨.ofList "echo".toList, [.ofList (env.get name).toList]⟩]) = _
  rw [String.ofList_toList, String.ofList_toList]

end Line

end CommandShell
