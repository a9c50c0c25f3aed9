import CommandShell.Builtins.Grep
import CommandShell.Proofs.Pattern.Matching
import CommandShell.Proofs.Pattern.Wrapping

/-!
# Searching for whole words

To search for whole words, the text of a pattern is put between two word boundaries, as a group of
its own. Where both texts are patterns, every line that matches the longer one matches the shorter
one (`isFound_of_isFound_wholeWord`).

But the text is put there as it is. So a pattern that ends in a comment takes the end of the group
for a part of the comment, a pattern that is nested almost too deeply is nested too deeply as a
group, and a text that closes a group that was never opened may close the group around it instead.
Apart from this, and from patterns that become too big, the longer text is accepted if and only if
the shorter one is (`Grep.Request.compile_withWholeWord`).

This is said of any engine that keeps to the language of patterns and to its limit for their sizes
(`Engine.IsDocumented`), whatever it takes for these sizes.
-/

namespace CommandShell.Pattern

/-! ## Engines -/

/-- The engine makes patterns as its documentation says, where patterns have given sizes. -/
structure Engine.IsDocumented (engine : Engine) (size : Bool → String → Nat) : Prop where
  /-- A text that means nothing is refused with the complaint about it. -/
  refuses {ignoreCase : Bool} {source : String} {error : Error} :
    interpret ignoreCase source = .error error → engine ignoreCase source = .error error
  /-- A text whose pattern is too big is refused for that. -/
  limits {ignoreCase : Bool} {source : String} {meaning : Meaning} :
    interpret ignoreCase source = .ok meaning → sizeLimit < size ignoreCase source →
      engine ignoreCase source = .error tooBig
  /-- Any other text makes a pattern, which matches the lines in which its meaning is found. -/
  builds {ignoreCase : Bool} {source : String} {meaning : Meaning} :
    interpret ignoreCase source = .ok meaning → size ignoreCase source ≤ sizeLimit →
      ∃ pattern, engine ignoreCase source = .ok pattern ∧
        ∀ line, pattern.isMatch line = meaning.isFound line

/-- An engine is there for sizes of any kind. -/
theorem Engine.isDocumented_ofSize (size : Bool → String → Nat) :
    (Engine.ofSize size).IsDocumented size where
  refuses h := by
    rw [ofSize, h]
    rfl
  limits h hsize := by
    rw [ofSize, h]
    exact if_neg (Nat.not_le.mpr hsize)
  builds {_ source meaning} h hsize := by
    refine ⟨⟨source, meaning.isFound⟩, ?_, fun _ => rfl⟩
    rw [ofSize, h]
    exact if_pos hsize

/-- What an engine accepts means something and is not too big. -/
theorem Engine.IsDocumented.eq_ok_iff {engine : Engine} {size : Bool → String → Nat}
    (h : engine.IsDocumented size) {ignoreCase : Bool} {source : String} :
    (∃ pattern, engine ignoreCase source = .ok pattern) ↔
      (∃ meaning, interpret ignoreCase source = .ok meaning) ∧
        size ignoreCase source ≤ sizeLimit := by
  constructor
  · rintro ⟨pattern, hpattern⟩
    cases hmeaning : interpret ignoreCase source with
    | error error =>
      rw [h.refuses hmeaning] at hpattern
      cases hpattern
    | ok meaning =>
      refine ⟨⟨meaning, rfl⟩, Nat.not_lt.mp fun hsize => ?_⟩
      rw [h.limits hmeaning hsize] at hpattern
      cases hpattern
  · rintro ⟨⟨meaning, hmeaning⟩, hsize⟩
    obtain ⟨pattern, hpattern, -⟩ := h.builds hmeaning hsize
    exact ⟨pattern, hpattern⟩

/-- A pattern that an engine has made matches the lines in which its meaning is found. -/
theorem Engine.IsDocumented.isMatch_eq {engine : Engine} {size : Bool → String → Nat}
    (h : engine.IsDocumented size) {ignoreCase : Bool} {source : String} {pattern : Pattern}
    (hpattern : engine ignoreCase source = .ok pattern) {meaning : Meaning}
    (hmeaning : interpret ignoreCase source = .ok meaning) (line : List Char) :
    pattern.isMatch line = meaning.isFound line := by
  obtain ⟨-, hsize⟩ := h.eq_ok_iff.mp ⟨pattern, hpattern⟩
  obtain ⟨pattern', hpattern', hmatch⟩ := h.builds hmeaning hsize
  rw [hpattern] at hpattern'
  obtain rfl := Except.ok.inj hpattern'
  exact hmatch line

/-! ## What has been read -/

variable {ignoreCase : Bool} {source : String} {node : Node}

/-- What a text means once it has been read. -/
def Node.interpreted? (ignoreCase : Bool) (node : Node) : Option Meaning :=
  if (node.tooDeep? 0).isSome then none
  else (node.meaning (.initial ignoreCase)).toOption.map Prod.fst

theorem toOption_interpret (ignoreCase : Bool) (source : String) :
    (interpret ignoreCase source).toOption =
      ((readWithinLimit source.toList).toOption.bind fun node =>
        (node.meaning (.initial ignoreCase)).toOption).map Prod.fst := by
  rw [interpret, ← toOption_bind]
  generalize readWithinLimit source.toList >>= _ = result
  cases result <;> rfl

theorem toOption_interpret_of_read (ignoreCase : Bool) (h : read source.toList = .ok node) :
    (interpret ignoreCase source).toOption = node.interpreted? ignoreCase := by
  rw [toOption_interpret, readWithinLimit, h, Node.interpreted?, toOption_bind]
  dsimp only [Except.toOption, Option.bind]
  cases node.tooDeep? 0 <;> rfl

theorem interpret_of_read_eq_error (ignoreCase : Bool) {fault : Fault}
    (h : read source.toList = .error fault) :
    interpret ignoreCase source = .error (.pattern (fault.render source.toList)) := by
  rw [interpret, readWithinLimit, h]
  rfl

theorem toOption_interpret_of_read_eq_error (ignoreCase : Bool) {fault : Fault}
    (h : read source.toList = .error fault) : (interpret ignoreCase source).toOption = none := by
  rw [interpret_of_read_eq_error ignoreCase h]
  rfl

/-- The places of its parts make no difference to what a text means. -/
theorem Node.interpreted?_of_erase {node' : Node} (h : node'.erase = node.erase)
    (ignoreCase : Bool) : node'.interpreted? ignoreCase = node.interpreted? ignoreCase := by
  have herased (node : Node) :
      node.interpreted? ignoreCase = node.erase.interpreted? ignoreCase := by
    rw [interpreted?, interpreted?, isSome_tooDeep?_erase, toOption_meaning_erase]
  rw [herased node', h, herased node]

/-! ## Patterns between word boundaries -/

/-- What is matched by a pattern between word boundaries. -/
def Modes.betweenBoundaries (modes : Modes) (meaning : Meaning) : Meaning :=
  .ofSequence [.look (Anchor.wordBoundary.test modes), meaning,
    .look (Anchor.wordBoundary.test modes)]

/-- Word boundaries put two more levels around a pattern. -/
theorem Node.isSome_tooDeep?_betweenBoundaries (node : Node) :
    (node.betweenBoundaries.tooDeep? 0).isSome = (node.tooDeep? 2).isSome := by
  change ((node.tooDeep? 2).or none).isSome = _
  rw [Option.or_none]

theorem Node.toOption_meaning_betweenBoundaries (modes : Modes) (node : Node) :
    (node.betweenBoundaries.meaning modes).toOption =
      (node.meaning modes).toOption.map fun (meaning, _) =>
        (modes.betweenBoundaries meaning, modes) := by
  have hinner : modes.apply [] = modes := rfl
  simp only [Node.betweenBoundaries, Node.meaning, Node.meanings, bind, Except.bind, hinner]
  cases node.meaning modes <;> rfl

theorem Node.interpreted?_betweenBoundaries (ignoreCase : Bool) (node : Node) :
    node.betweenBoundaries.interpreted? ignoreCase =
      if (node.tooDeep? 2).isSome then none
      else (node.interpreted? ignoreCase).map (Modes.initial ignoreCase).betweenBoundaries := by
  rw [interpreted?, isSome_tooDeep?_betweenBoundaries, toOption_meaning_betweenBoundaries]
  split
  · rfl
  · next hdeep =>
    -- What has room for two more levels is not nested too deeply itself.
    have hnode := node.tooDeep?_of_le (Nat.zero_le 2) (Option.not_isSome_iff_eq_none.mp hdeep)
    rw [interpreted?, hnode, Option.isSome_none, if_neg Bool.false_ne_true, Option.map_map,
      Option.map_map]
    rfl

/-! ## Texts between word boundaries -/

theorem toList_wholeWord (source : String) :
    (wholeWord source).toList = opening ++ (source.toList ++ closing) := by
  rw [wholeWord, String.toList_append, String.toList_append, List.append_assoc]
  rfl

/-- The text with the end of the group behind it that is put around a pattern. -/
def withClosing (source : String) : String := source ++ ")\\b"

theorem toList_withClosing (source : String) :
    (withClosing source).toList = source.toList ++ closing :=
  String.toList_append

/-- A text that can be read means the same between word boundaries, unless it ends in a comment. -/
theorem toOption_interpret_wholeWord (ignoreCase : Bool) (h : read source.toList = .ok node) :
    ((interpret ignoreCase (withClosing source)).toOption.isSome =
          (interpret ignoreCase source).toOption.isSome ∧
        (interpret ignoreCase (wholeWord source)).toOption = none) ∨
      ((interpret ignoreCase (withClosing source)).toOption = none ∧
        (interpret ignoreCase (wholeWord source)).toOption =
          if (node.tooDeep? 2).isSome then none
          else (interpret ignoreCase source).toOption.map
            (Modes.initial ignoreCase).betweenBoundaries) := by
  have hwraps := wraps_read h
  rw [← toList_wholeWord, ← toList_withClosing] at hwraps
  rw [toOption_interpret_of_read ignoreCase h, ← Node.interpreted?_betweenBoundaries]
  generalize hread : read (withClosing source).toList = result,
    hread' : read (wholeWord source).toList = result' at hwraps
  cases hwraps with
  | commented same =>
    refine .inl ⟨?_, toOption_interpret_of_read_eq_error ignoreCase hread'⟩
    rw [toOption_interpret_of_read ignoreCase hread, Node.interpreted?_of_erase same]
  | closed between =>
    have hsame : Node.erase _ = node.betweenBoundaries.erase := between
    refine .inr ⟨toOption_interpret_of_read_eq_error ignoreCase hread, ?_⟩
    rw [toOption_interpret_of_read ignoreCase hread', Node.interpreted?_of_erase hsame]

/-- A text that cannot be read means nothing between word boundaries either, unless it closes a
group that was never opened. -/
theorem toOption_interpret_wholeWord_of_error (ignoreCase : Bool) {fault : Fault}
    (h : read source.toList = .error fault) :
    (∃ place, fault = .inPart .groupUnopened place) ∨
      (interpret ignoreCase (wholeWord source)).toOption = none := by
  have hread := read_opening_closing_of_error h
  rw [← toList_wholeWord] at hread
  exact hread.imp id fun ⟨fault', hfault'⟩ => toOption_interpret_of_read_eq_error ignoreCase hfault'

/-- What a text means for whole words is what it means itself, between word boundaries. -/
theorem interpret_wholeWord_eq {part whole : Meaning}
    (hpart : interpret ignoreCase source = .ok part)
    (hwhole : interpret ignoreCase (wholeWord source) = .ok whole) :
    whole = (Modes.initial ignoreCase).betweenBoundaries part := by
  cases hread : read source.toList with
  | error fault =>
    rw [interpret_of_read_eq_error ignoreCase hread] at hpart
    cases hpart
  | ok node =>
    obtain ⟨-, hnone⟩ | ⟨-, hsome⟩ := toOption_interpret_wholeWord ignoreCase hread
    · rw [hwhole] at hnone
      cases hnone
    · rw [hwhole, hpart] at hsome
      split at hsome
      · cases hsome
      · exact Option.some.inj hsome

theorem isFound_of_isFound_wholeWord {part whole : Meaning}
    (hpart : interpret ignoreCase source = .ok part)
    (hwhole : interpret ignoreCase (wholeWord source) = .ok whole) {line : List Char}
    (h : whole.isFound line = true) : part.isFound line = true := by
  rw [interpret_wholeWord_eq hpart hwhole] at h
  exact Expr.isFound_of_between h

/-- The text can be read as a pattern, and still could with some more levels around it. -/
def IsReadableWithin (levels : Nat) (text : List Char) : Prop :=
  ∃ node, read text = .ok node ∧ node.tooDeep? levels = none

theorem isReadableWithin_iff (levels : Nat) {text : List Char} (h : read text = .ok node) :
    IsReadableWithin levels text ↔ node.tooDeep? levels = none := by
  refine ⟨?_, fun hlevels => ⟨node, h, hlevels⟩⟩
  rintro ⟨node', hnode', hlevels⟩
  rw [h] at hnode'
  cases hnode'
  exact hlevels

/-- The text means something as a pattern. -/
def IsLegal (ignoreCase : Bool) (source : String) : Prop :=
  ∃ meaning, interpret ignoreCase source = .ok meaning

theorem isLegal_iff : IsLegal ignoreCase source ↔
    (interpret ignoreCase source).toOption.isSome = true := by
  rw [IsLegal]
  cases interpret ignoreCase source with
  | ok meaning => exact ⟨fun _ => rfl, fun _ => ⟨meaning, rfl⟩⟩
  | error error => exact ⟨fun ⟨_, h⟩ => (by cases h), fun h => (by cases h)⟩

instance : Decidable (IsLegal ignoreCase source) :=
  decidable_of_iff _ isLegal_iff.symm

theorem exists_of_any_toOption {ε α : Type} {result : Except ε α} {p : α → Bool}
    (h : result.toOption.any p = true) : ∃ a, result = .ok a ∧ p a = true := by
  cases result with
  | ok a => exact ⟨a, rfl, h⟩
  | error error => cases h

/-- A legal text is legal for whole words unless it ends in a comment or is nested too deeply for a
group. -/
theorem isLegal_wholeWord_iff (h : IsLegal ignoreCase source) :
    IsLegal ignoreCase (wholeWord source) ↔
      IsReadableWithin 2 source.toList ∧ ¬ IsLegal ignoreCase (withClosing source) := by
  rw [isLegal_iff] at h ⊢
  rw [isLegal_iff]
  cases hread : read source.toList with
  | error fault =>
    rw [toOption_interpret_of_read_eq_error ignoreCase hread] at h
    cases h
  | ok node =>
    rw [isReadableWithin_iff 2 hread]
    obtain ⟨hclosing, hwhole⟩ | ⟨hclosing, hwhole⟩ := toOption_interpret_wholeWord ignoreCase hread
    · -- The text ends in a comment.
      rw [hclosing, hwhole, h]
      simp
    · rw [hclosing, hwhole]
      cases node.tooDeep? 2 with
      | none => simp [h]
      | some span => simp

/-- A text is legal for whole words only if it is legal, unless it closes a group that was never
opened. -/
theorem groupUnopened_of_isLegal_wholeWord {error : Error}
    (h : interpret ignoreCase source = .error error)
    (hwhole : IsLegal ignoreCase (wholeWord source)) :
    ∃ place, error = .pattern ((Fault.inPart .groupUnopened place).render source.toList) := by
  rw [isLegal_iff] at hwhole
  cases hread : read source.toList with
  | error fault =>
    obtain ⟨place, rfl⟩ | hnone := toOption_interpret_wholeWord_of_error ignoreCase hread
    · rw [interpret_of_read_eq_error ignoreCase hread] at h
      exact ⟨place, (Except.error.inj h).symm⟩
    · rw [hnone] at hwhole
      cases hwhole
  | ok node =>
    -- What can be read means something between word boundaries only if it does alone.
    obtain ⟨-, hnone⟩ | ⟨-, hsome⟩ := toOption_interpret_wholeWord ignoreCase hread
    · rw [hnone] at hwhole
      cases hwhole
    · rw [hsome, h] at hwhole
      split at hwhole <;> cases hwhole

end CommandShell.Pattern

namespace CommandShell.Grep.Request

open Pattern

/-- The same request for whole words, or for any part of a line. -/
def withWholeWord (request : Request) (wholeWord : Bool) : Request :=
  { request with wholeWord }

/-- Where the pattern of a request is accepted both ways, every line that matches for whole words
matches anyway.

An accepted pattern stays so for whole words, unless it has no room for two more levels of nesting,
or ends in a comment, so that the end of a group behind it changes nothing, or becomes too big. A
pattern that is refused is accepted for whole words only if the complaint about it is that it closes
a group that was never opened, or else that it is too big. -/
theorem compile_withWholeWord {engine : Engine} {size : Bool → String → Nat}
    (h : engine.IsDocumented size) (request : Request) :
    let part := (request.withWholeWord false).compile engine
    let whole := (request.withWholeWord true).compile engine
    (∀ pattern pattern', part = .ok pattern → whole = .ok pattern' →
      ∀ line, pattern'.isMatch line = true → pattern.isMatch line = true) ∧
    (∀ pattern, part = .ok pattern →
      ((∃ pattern', whole = .ok pattern') ↔
        IsReadableWithin 2 request.pattern.toList ∧
          ¬ IsLegal request.ignoreCase (withClosing request.pattern) ∧
            size request.ignoreCase (Pattern.wholeWord request.pattern) ≤ sizeLimit)) ∧
    (∀ error pattern', part = .error error → whole = .ok pattern' →
      (∃ place,
        error = .pattern ((Fault.inPart .groupUnopened place).render request.pattern.toList)) ∨
      (error = tooBig ∧ sizeLimit < size request.ignoreCase request.pattern)) := by
  refine ⟨?_, ?_, ?_⟩
  · intro pattern pattern' hpart hwhole line hline
    obtain ⟨⟨meaning, hmeaning⟩, -⟩ := h.eq_ok_iff.mp ⟨pattern, hpart⟩
    obtain ⟨⟨meaning', hmeaning'⟩, -⟩ := h.eq_ok_iff.mp ⟨pattern', hwhole⟩
    rw [h.isMatch_eq hwhole hmeaning'] at hline
    rw [h.isMatch_eq hpart hmeaning]
    exact isFound_of_isFound_wholeWord hmeaning hmeaning' hline
  · intro pattern hpart
    have hlegal : IsLegal request.ignoreCase request.pattern :=
      (h.eq_ok_iff.mp ⟨pattern, hpart⟩).1
    rw [← and_assoc, ← isLegal_wholeWord_iff hlegal]
    exact h.eq_ok_iff
  · intro error pattern' hpart hwhole
    obtain ⟨hlegal, -⟩ := h.eq_ok_iff.mp ⟨pattern', hwhole⟩
    cases hmeaning : interpret request.ignoreCase request.pattern with
    | error fault =>
      obtain rfl : fault = error := Except.error.inj ((h.refuses hmeaning).symm.trans hpart)
      exact .inl (groupUnopened_of_isLegal_wholeWord hmeaning hlegal)
    | ok meaning =>
      -- What means something is refused only for its size.
      have hsize : sizeLimit < size request.ignoreCase request.pattern := by
        by_contra hsmall
        obtain ⟨pattern, hpattern, -⟩ := h.builds hmeaning (Nat.not_lt.mp hsmall)
        cases hpattern.symm.trans hpart
      exact .inr ⟨Except.error.inj (hpart.symm.trans (h.limits hmeaning hsize)), hsize⟩

/-- The line `a b` matches the pattern `a`, whole words or not, and that pattern has room for two
more levels. The complaint about `a)(?:b`, which is legal for whole words, is about the closing
parenthesis. -/
theorem compile_of_word_and_of_unopened_group :
    Pattern.compile.IsDocumented leastSize ∧
    (∃ pattern, (Request.mk false false 0 "a" []).compile = .ok pattern ∧
      pattern.isMatch ['a', ' ', 'b'] = true) ∧
    IsReadableWithin 2 ['a'] ∧
    ∃ place, (Request.mk false false 0 "a)(?:b" []).compile =
      .error (.pattern ((Fault.inPart .groupUnopened place).render "a)(?:b".toList)) := by
  have h : Pattern.compile.IsDocumented leastSize := Engine.isDocumented_ofSize leastSize
  obtain ⟨hmatch, hlegal, -⟩ := compile_withWholeWord h ⟨false, false, 0, "a", []⟩
  obtain ⟨-, -, hunopened⟩ := compile_withWholeWord h ⟨false, false, 0, "a)(?:b", []⟩
  have hpart : (Pattern.compile false "a").toOption.any (fun _ => true) = true := by
    decide +kernel
  have hwhole : (Pattern.compile false (Pattern.wholeWord "a")).toOption.any
      (·.isMatch ['a', ' ', 'b']) = true := by decide +kernel
  have hunopenedWhole : (Pattern.compile false (Pattern.wholeWord "a)(?:b")).toOption.any
      (fun _ => true) = true := by decide +kernel
  obtain ⟨part, hpart, -⟩ := exists_of_any_toOption hpart
  obtain ⟨whole, hwhole, hline⟩ := exists_of_any_toOption hwhole
  obtain ⟨unopened, hunopenedWhole, -⟩ := exists_of_any_toOption hunopenedWhole
  refine ⟨h, ⟨part, hpart, hmatch part whole hpart hwhole _ hline⟩,
    ((hlegal part hpart).mp ⟨whole, hwhole⟩).1, ?_⟩
  cases hcompile : Pattern.compile false "a)(?:b" with
  | ok pattern =>
    have hillegal : ¬ IsLegal false "a)(?:b" := by decide
    exact absurd (h.eq_ok_iff.mp ⟨pattern, hcompile⟩).1 hillegal
  | error error =>
    obtain ⟨place, rfl⟩ | ⟨-, hsize⟩ := hunopened error unopened hcompile hunopenedWhole
    · exact ⟨place, hcompile⟩
    · exact absurd hsize (by decide +kernel)

/-- Whether a text is accepted does depend on whether whole words are asked for: a comment at its
end makes it refused, and a closing parenthesis may make it accepted. -/
theorem legality_of_comment_and_of_unopened_group :
    let comment : Request := ⟨false, false, 0, "(?x)a#c", []⟩
    let unopened : Request := ⟨false, false, 0, "a)(?:b", []⟩
    ((∃ pattern, (comment.withWholeWord false).compile = .ok pattern) ∧
      ¬ ∃ pattern, (comment.withWholeWord true).compile = .ok pattern) ∧
    ((¬ ∃ pattern, (unopened.withWholeWord false).compile = .ok pattern) ∧
      ∃ pattern, (unopened.withWholeWord true).compile = .ok pattern) := by
  have h : Pattern.compile.IsDocumented leastSize := Engine.isDocumented_ofSize leastSize
  have hcomment : IsLegal false "(?x)a#c" ∧ ¬ IsLegal false (Pattern.wholeWord "(?x)a#c") := by
    decide
  have hunopened : ¬ IsLegal false "a)(?:b" ∧ IsLegal false (Pattern.wholeWord "a)(?:b") := by
    decide
  -- Nothing here is too big.
  refine ⟨⟨h.eq_ok_iff.mpr ⟨hcomment.1, ?_⟩, fun hwhole => hcomment.2 (h.eq_ok_iff.mp hwhole).1⟩,
    fun hpart => hunopened.1 (h.eq_ok_iff.mp hpart).1, h.eq_ok_iff.mpr ⟨hunopened.2, ?_⟩⟩
  · decide +kernel
  · decide +kernel

end CommandShell.Grep.Request
