import CommandShell.Proofs.Pattern.Embedding

/-!
# Escapes within longer patterns

Escapes are read alike in a pattern and in a longer one around it (`simulates_readEscape`), with one
exception. An opening brace behind `\b` that is the last sign of a pattern makes a fault at once; in
a longer pattern the brace is left for a counted repetition, which then has no count
(`LeavesBrace`).
-/

namespace CommandShell.Pattern

variable {tail : List Char} {lost : List Char → Prop} {cur cur' : Cursor}

/-! ## Numbers -/

theorem simulates_readHexDigits (h : cur.Embedded tail cur') {c : Char} (hc : cur.next? = some c)
    (count : Nat) (first : Bool) (value : Nat) :
    Simulates tail lost cur.rest id (readHexDigits count first value cur)
      (readHexDigits count first value cur') := by
  induction count generalizing cur cur' c first value with
  | zero =>
    exact .both rfl (h.advanceSkipping hc) cur.advanceSkipping_suffix_rest
  | succ count ih =>
    rw [readHexDigits, readHexDigits]
    have hnow : Cursor.Embedded tail (if first then cur else cur.advanceSkipping)
        (if first then cur' else cur'.advanceSkipping) := by
      split
      · exact h
      · exact h.advanceSkipping hc
    have hsuffix : (if first then cur else cur.advanceSkipping).rest <:+ cur.rest := by
      split
      · exact List.suffix_rfl
      · exact cur.advanceSkipping_suffix_rest
    generalize (if first then cur else cur.advanceSkipping) = now at hnow hsuffix ⊢
    generalize (if first then cur' else cur'.advanceSkipping) = now' at hnow ⊢
    obtain ⟨d, hd, hd'⟩ | ⟨hend, hend'⟩ | ⟨hend, hclosing⟩ := hnow.next
    · rw [hd, hd']
      dsimp only
      cases hexDigit? d with
      | none => exact .neither
      | some digit => exact (ih hnow hd false _).within hsuffix
    · rw [Cursor.next?_of_nil hend, Cursor.next?_of_nil hend']
      exact .neither
    · -- The closing parenthesis is no digit.
      rw [Cursor.next?_of_nil hend, Cursor.next?_of_closing hclosing]
      exact .neither

theorem simulates_readFixedHex (h : cur.Embedded tail cur') {c : Char} (hc : cur.next? = some c)
    (width start start' : Nat) :
    Simulates tail lost cur.rest Literal.erase (readFixedHex width start cur)
      (readFixedHex width start' cur') := by
  rw [readFixedHex, readFixedHex]
  refine (simulates_readHexDigits h hc width true 0).bind_of_never ?_
  intro value value' after after' _ _ hvalue hafter hsuffix
  obtain rfl : value' = value := hvalue
  dsimp only
  cases charOf? value' with
  | none => exact .neither
  | some c => exact .both rfl hafter hsuffix

/-- Digits in braces: where the shorter pattern ends among them, the longer one is refused. -/
theorem readBracedDigits_embedded (h : cur.Embedded tail cur') {c : Char}
    (hc : cur.next? = some c) {fuel fuel' : Nat} (hfuel : cur.rest.length ≤ fuel)
    (hfuel' : cur'.rest.length ≤ fuel') (value : Option Nat) :
    Simulates tail lost cur.rest id (readBracedDigits fuel value cur)
        (readBracedDigits fuel' value cur') ∨
      ∃ value' after fault, readBracedDigits fuel value cur = .ok (value', after) ∧
        after.rest = [] ∧ readBracedDigits fuel' value cur' = .error fault := by
  induction fuel generalizing cur cur' c fuel' value with
  | zero =>
    rw [Cursor.rest_eq_cons hc] at hfuel
    cases hfuel
  | succ fuel ih =>
    have hnow := h.advanceSkipping hc
    have hsuffix := cur.advanceSkipping_suffix
    have hlength := Cursor.length_advanceSkipping_lt hc
    have hlength' := Cursor.length_advanceSkipping_lt (h.next_eq hc)
    obtain ⟨fuel', rfl⟩ : ∃ n, fuel' = n + 1 := ⟨fuel' - 1, by omega⟩
    rw [readBracedDigits, readBracedDigits]
    generalize cur.advanceSkipping = now at hnow hsuffix hlength ⊢
    generalize cur'.advanceSkipping = now' at hnow hlength' ⊢
    have hbase := hsuffix.trans (List.tail_suffix cur.rest)
    obtain ⟨d, hd, hd'⟩ | ⟨hend, hend'⟩ | ⟨hend, hclosing⟩ := hnow.next
    · rw [hd, hd']
      split
      · next heq => cases heq
      · exact .inl (.both rfl hnow hbase)
      · next heq =>
        obtain rfl := Option.some.inj heq
        cases hexDigit? d with
        | none => exact .inl .neither
        | some digit =>
          refine (ih hnow hd (by omega) (by omega) _).imp_left fun hsim => ?_
          exact hsim.within hbase
    · rw [Cursor.next?_of_nil hend, Cursor.next?_of_nil hend']
      exact .inl (.both rfl hnow hbase)
    · -- The longer pattern is refused at the closing parenthesis, the shorter one only later on.
      rw [Cursor.next?_of_nil hend, Cursor.next?_of_closing hclosing]
      exact .inr ⟨value, now, _, rfl, hend, rfl⟩

/-- What a reader leaves of a longer pattern beyond the end of the shorter one. -/
theorem advanceSkipping_suffix_of_closing (h : cur.rest = closing) :
    cur.advanceSkipping.rest <:+ closing.tail :=
  h ▸ cur.advanceSkipping_suffix

theorem simulates_readBracedHex (h : cur.Embedded tail cur') {c : Char}
    (hc : cur.next? = some c) (start start' : Nat) :
    Simulates tail (· <:+ closing.tail) cur.rest Literal.erase (readBracedHex start cur)
      (readBracedHex start' cur') := by
  rw [readBracedHex, readBracedHex]
  obtain hsim | ⟨value, last, fault, hdigits, hend, hdigits'⟩ :=
    readBracedDigits_embedded h hc (Nat.le_succ _) (Nat.le_succ _) none
  · -- Both have read the digits; what is left is the closing brace.
    refine hsim.bind_of_never ?_
    intro value value' last last' _ _ hvalue hlast hsuffix
    obtain rfl : value' = value := hvalue
    dsimp only
    obtain ⟨d, hd, hd'⟩ | ⟨hend, hend'⟩ | ⟨hend, hclosing⟩ := hlast.next
    · rw [Cursor.atEnd_eq_false hd, Cursor.atEnd_eq_false hd']
      cases value' with
      | none => exact .neither
      | some value =>
        dsimp only
        cases charOf? value with
        | none => exact .neither
        | some c =>
          exact .both rfl (hlast.advanceSkipping hd)
            (last.advanceSkipping_suffix_rest.trans hsuffix)
    · rw [Cursor.atEnd_of_nil hend, Cursor.atEnd_of_nil hend']
      exact .neither
    · rw [Cursor.atEnd_of_nil hend, Cursor.atEnd_eq_false (Cursor.next?_of_closing hclosing)]
      cases value' with
      | none => exact .neither
      | some value =>
        dsimp only
        cases charOf? value with
        | none => exact .neither
        | some c => exact .beyond (advanceSkipping_suffix_of_closing hclosing)
  · -- The shorter pattern has no closing brace, the longer one has been refused already.
    rw [hdigits, hdigits']
    change Simulates _ _ _ _ (if last.atEnd then _ else _) _
    rw [Cursor.atEnd_of_nil hend]
    exact .neither

theorem readFixedHex_suffix_of_closing (h : cur.rest = closing) {width start : Nat}
    {one : Literal} {after : Cursor} (hread : readFixedHex width start cur = .ok (one, after)) :
    after.rest <:+ closing.tail := by
  rw [readFixedHex] at hread
  cases width with
  | zero =>
    have hdigits : readHexDigits 0 true 0 cur = .ok (0, cur.advanceSkipping) := rfl
    rw [hdigits] at hread
    cases hread
    exact advanceSkipping_suffix_of_closing h
  | succ width =>
    -- The closing parenthesis is no hexadecimal digit.
    have hdigits : readHexDigits (width + 1) true 0 cur = cur.failAtChar .hexInvalidDigit := by
      rw [readHexDigits, if_pos rfl, Cursor.next?_of_closing h]
      rfl
    rw [hdigits] at hread
    cases hread

theorem simulates_readHex (h : cur.Embedded tail cur') {c : Char} (hc : cur.next? = some c)
    (width start start' : Nat) :
    Simulates tail (· <:+ closing.tail) cur.rest.tail Literal.erase (readHex width start cur)
      (readHex width start' cur') := by
  have hnow := h.advanceSkipping hc
  have hsuffix := cur.advanceSkipping_suffix
  rw [readHex, readHex]
  generalize cur.advanceSkipping = now at hnow hsuffix ⊢
  generalize cur'.advanceSkipping = now' at hnow ⊢
  obtain ⟨d, hd, hd'⟩ | ⟨hend, hend'⟩ | ⟨hend, hclosing⟩ := hnow.next
  · rw [hd, hd']
    split
    · next heq => cases heq
    · exact (simulates_readBracedHex hnow hd start start').within hsuffix
    · exact (simulates_readFixedHex hnow hd width start start').within hsuffix
  · rw [Cursor.next?_of_nil hend, Cursor.next?_of_nil hend']
    exact .neither
  · rw [Cursor.next?_of_nil hend, Cursor.next?_of_closing hclosing]
    dsimp only
    cases hread : readFixedHex width start' now' with
    | error fault => exact .neither
    | ok read => exact .beyond (readFixedHex_suffix_of_closing hclosing hread)

/-! ## Properties -/

/-- Without a closing brace, everything is collected. -/
theorem readBraced_of_not_mem (h : '\x7d' ∉ cur.rest.tail) {fuel : Nat}
    (hfuel : cur.rest.length ≤ fuel) (name : List Char) :
    (readBraced fuel name cur).2.rest = [] := by
  induction fuel generalizing cur name with
  | zero => exact List.eq_nil_of_length_eq_zero (Nat.le_zero.mp hfuel)
  | succ fuel ih =>
    rw [readBraced]
    have hsuffix := cur.advanceSkipping_suffix
    have hlength := hsuffix.length_le
    rw [List.length_tail] at hlength
    generalize cur.advanceSkipping = now at hsuffix hlength ⊢
    cases hnext : now.next? with
    | none => exact Cursor.next?_eq_none_iff.mp hnext
    | some c =>
      have hnow := Cursor.length_advance_lt hnext
      have hc : c ≠ '\x7d' := by
        rintro rfl
        refine h (hsuffix.subset ?_)
        rw [Cursor.rest_eq_cons hnext]
        exact List.mem_cons_self
      split
      · next heq => cases heq
      · next heq => exact absurd (Option.some.inj heq) hc
      · exact ih (fun hmem => h (hsuffix.subset (List.mem_of_mem_tail hmem))) (by omega) _

/-- What stands in braces: where the shorter pattern ends within them, so does the longer one. -/
theorem readBraced_embedded (h : cur.Embedded tail cur') {c : Char} (hc : cur.next? = some c)
    {fuel fuel' : Nat} (hfuel : cur.rest.length ≤ fuel) (hfuel' : cur'.rest.length ≤ fuel')
    (name : List Char) :
    let read := readBraced fuel name cur
    let read' := readBraced fuel' name cur'
    (read.2.rest = [] ∧ read'.2.rest = []) ∨
      ∃ d, read.2.next? = some d ∧ read'.1 = read.1 ∧ read.2.Embedded tail read'.2 ∧
        read.2.rest <:+ cur.rest := by
  induction fuel generalizing cur cur' c fuel' name with
  | zero =>
    rw [Cursor.rest_eq_cons hc] at hfuel
    cases hfuel
  | succ fuel ih =>
    have hnow := h.advanceSkipping hc
    have hsuffix := cur.advanceSkipping_suffix
    have hlength := Cursor.length_advanceSkipping_lt hc
    have hlength' := Cursor.length_advanceSkipping_lt (h.next_eq hc)
    obtain ⟨fuel', rfl⟩ : ∃ n, fuel' = n + 1 := ⟨fuel' - 1, by omega⟩
    dsimp only
    rw [readBraced, readBraced]
    generalize cur.advanceSkipping = now at hnow hsuffix hlength ⊢
    generalize cur'.advanceSkipping = now' at hnow hlength' ⊢
    have hbase := hsuffix.trans (List.tail_suffix cur.rest)
    obtain ⟨d, hd, hd'⟩ | ⟨hend, hend'⟩ | ⟨hend, hclosing⟩ := hnow.next
    · rw [hd, hd']
      split
      · next heq => cases heq
      · exact .inr ⟨d, hd, rfl, hnow, hbase⟩
      · next heq =>
        obtain rfl := Option.some.inj heq
        refine (ih hnow hd (by omega) (by omega) _).imp_right ?_
        rintro ⟨e, he, hname, hlast, hwithin⟩
        exact ⟨e, he, hname, hlast, hwithin.trans hbase⟩
    · rw [Cursor.next?_of_nil hend, Cursor.next?_of_nil hend']
      exact .inl ⟨hend, hend'⟩
    · -- No brace stands in a tail, so the name goes on to the end of the longer pattern.
      rw [Cursor.next?_of_nil hend, Cursor.next?_of_closing hclosing]
      refine .inl ⟨hend, readBraced_of_not_mem ?_ (by omega) _⟩
      rw [hclosing]
      decide

theorem simulates_readProperty (h : cur.Embedded tail cur') {c : Char} (hc : cur.next? = some c)
    (negated : Bool) (start start' : Nat) :
    Simulates tail (· <:+ closing.tail) cur.rest.tail CharSet.erase (readProperty negated start cur)
      (readProperty negated start' cur') := by
  have hnow := h.advanceSkipping hc
  have hsuffix := cur.advanceSkipping_suffix
  rw [readProperty, readProperty]
  generalize cur.advanceSkipping = now at hnow hsuffix ⊢
  generalize cur'.advanceSkipping = now' at hnow ⊢
  obtain ⟨d, hd, hd'⟩ | ⟨hend, hend'⟩ | ⟨hend, hclosing⟩ := hnow.next
  · rw [hd, hd']
    split
    · next heq => cases heq
    · have hbraced := readBraced_embedded hnow hd (Nat.le_succ _) (Nat.le_succ _) []
      dsimp only at hbraced ⊢
      generalize readBraced (now.rest.length + 1) [] now = read at hbraced ⊢
      generalize readBraced (now'.rest.length + 1) [] now' = read' at hbraced ⊢
      obtain ⟨text, last⟩ := read
      obtain ⟨text', last'⟩ := read'
      obtain ⟨hend, hend'⟩ | ⟨e, he, htext, hlast, hwithin⟩ := hbraced
      · dsimp only at hend hend' ⊢
        rw [Cursor.atEnd_of_nil hend, Cursor.atEnd_of_nil hend']
        exact .neither
      · obtain rfl : text' = text := htext
        dsimp only at he hlast hwithin ⊢
        rw [Cursor.atEnd_eq_false he, Cursor.atEnd_eq_false (hlast.next_eq he)]
        refine .both rfl (hlast.advance he) ?_
        rw [Cursor.rest_advance]
        exact ((List.tail_suffix _).trans hwithin).trans hsuffix
    · exact .neither
    · next heq =>
      obtain rfl := Option.some.inj heq
      exact .both rfl (hnow.advanceSkipping hd)
        (now.advanceSkipping_suffix_rest.trans hsuffix)
  · rw [Cursor.next?_of_nil hend, Cursor.next?_of_nil hend']
    exact .neither
  · -- The closing parenthesis is taken for the name of a property.
    rw [Cursor.next?_of_nil hend, Cursor.next?_of_closing hclosing]
    exact .beyond (advanceSkipping_suffix_of_closing hclosing)

/-! ## Word boundaries -/

theorem readBoundaryName_eq_readWhile (fuel : Nat) (name : List Char) (cur : Cursor) :
    readBoundaryName fuel name cur = readWhile isBoundaryNameChar fuel name cur := by
  induction fuel generalizing name cur with
  | zero => rfl
  | succ fuel ih =>
    rw [readBoundaryName, readWhile]
    cases cur.next? with
    | none => rfl
    | some c =>
      dsimp only
      rw [ih]

/-- Names in braces: where the shorter pattern ends right behind the opening brace, it is refused,
while in the longer one the brace is left for something else. -/
theorem readNamedBoundary?_embedded (h : cur.Embedded tail cur') {c : Char}
    (hc : cur.next? = some c) (start start' : Nat) :
    (∃ kind after after', readNamedBoundary? start cur = .ok (some (kind, after)) ∧
        readNamedBoundary? start' cur' = .ok (some (kind, after')) ∧
          after.Embedded tail after' ∧ after.rest <:+ cur.rest) ∨
      (readNamedBoundary? start cur = .ok none ∧ readNamedBoundary? start' cur' = .ok none) ∨
      (∃ fault, readNamedBoundary? start cur = .error fault) ∧
        ((∃ fault, readNamedBoundary? start' cur' = .error fault) ∨
          (readNamedBoundary? start' cur' = .ok none ∧ cur'.advanceSkipping.rest = closing)) := by
  have hinner := h.advanceSkipping hc
  have hsuffix := cur.advanceSkipping_suffix_rest
  rw [readNamedBoundary?, readNamedBoundary?]
  generalize cur.advanceSkipping = inner at hinner hsuffix ⊢
  generalize cur'.advanceSkipping = inner' at hinner ⊢
  obtain ⟨d, hd, hd'⟩ | ⟨hend, hend'⟩ | ⟨hend, hclosing⟩ := hinner.next
  · rw [hd, hd']
    dsimp only
    split
    · -- The closing parenthesis may not stand in a name, so both names end at the same place.
      rw [readBoundaryName_eq_readWhile, readBoundaryName_eq_readWhile]
      obtain ⟨hname, hlast, hwithin⟩ :=
        readWhile_embedded (p := isBoundaryNameChar) hinner rfl (Nat.le_refl _) (Nat.le_refl _) []
      generalize readWhile isBoundaryNameChar inner.rest.length [] inner = read
        at hname hlast hwithin ⊢
      generalize readWhile isBoundaryNameChar inner'.rest.length [] inner' = read' at hname hlast ⊢
      obtain ⟨name, last⟩ := read
      obtain ⟨name', last'⟩ := read'
      obtain rfl : name' = name := hname
      dsimp only at hlast hwithin ⊢
      by_cases hbrace : last.next? = some '\x7d'
      · rw [if_pos hbrace, if_pos (hlast.next_eq hbrace)]
        cases namedBoundary? (String.ofList name') with
        | none => exact .inr (.inr ⟨⟨_, rfl⟩, .inl ⟨_, rfl⟩⟩)
        | some kind =>
          refine .inl ⟨kind, _, _, rfl, rfl, hlast.advance hbrace, ?_⟩
          rw [Cursor.rest_advance]
          exact ((List.tail_suffix _).trans hwithin).trans hsuffix
      · rw [if_neg hbrace, if_neg (mt (hlast.next_eq_iff (by decide)).mp hbrace)]
        exact .inr (.inr ⟨⟨_, rfl⟩, .inl ⟨_, rfl⟩⟩)
    · exact .inr (.inl ⟨rfl, rfl⟩)
  · rw [Cursor.next?_of_nil hend, Cursor.next?_of_nil hend']
    exact .inr (.inr ⟨⟨_, rfl⟩, .inl ⟨_, rfl⟩⟩)
  · rw [Cursor.next?_of_nil hend, Cursor.next?_of_closing hclosing]
    exact .inr (.inr ⟨⟨_, rfl⟩, .inr ⟨rfl, hclosing⟩⟩)

/-- A word boundary is left of `\b` and an opening brace that is the last sign of the shorter
pattern, which is refused. -/
def LeavesBrace (result result' : Except Fault (Node × Cursor)) : Prop :=
  (∃ fault, result = .error fault) ∧
    ∃ span after', result' = .ok (.anchor span .wordBoundary, after') ∧
      after'.next? = some '\x7b' ∧ after'.advanceSkipping.rest = closing

theorem readBoundary_embedded (h : cur.Embedded tail cur') (start start' : Nat) :
    Simulates tail (· <:+ closing.tail) cur.rest Node.erase (readBoundary start cur)
        (readBoundary start' cur') ∨
      LeavesBrace (readBoundary start cur) (readBoundary start' cur') := by
  rw [readBoundary, readBoundary]
  by_cases hbrace : cur.next? = some '\x7b'
  · rw [if_pos hbrace, if_pos (h.next_eq hbrace)]
    obtain ⟨kind, after, after', hread, hread', hafter, hsuffix⟩ | ⟨hread, hread'⟩ |
      ⟨⟨fault, hread⟩, ⟨fault', hread'⟩ | ⟨hread', hclosing⟩⟩ :=
        readNamedBoundary?_embedded h hbrace start start'
    · rw [hread, hread']
      exact .inl (.both rfl hafter hsuffix)
    · rw [hread, hread']
      exact .inl (.both rfl h List.suffix_rfl)
    · rw [hread, hread']
      exact .inl .neither
    · rw [hread, hread']
      exact .inr ⟨⟨fault, rfl⟩, _, cur', rfl, h.next_eq hbrace, hclosing⟩
  · rw [if_neg hbrace, if_neg (mt (h.next_eq_iff (by decide)).mp hbrace)]
    exact .inl (.both rfl h List.suffix_rfl)

/-! ## Escapes and other items -/

/-- An escape that begins with the same character in both patterns. -/
theorem readSimpleEscape_embedded (h : cur.Embedded tail cur') {c : Char}
    (hc : cur.next? = some c) (start start' : Nat) :
    Simulates tail (· <:+ closing.tail) cur.rest.tail Node.erase (readSimpleEscape c start cur)
        (readSimpleEscape c start' cur') ∨
      LeavesBrace (readSimpleEscape c start cur) (readSimpleEscape c start' cur') := by
  have hafter := h.advance hc
  have hsuffix : cur.advance.rest <:+ cur.rest.tail := cur.rest_advance ▸ List.suffix_rfl
  rw [readSimpleEscape, readSimpleEscape]
  split
  · exact .inl (.both rfl hafter hsuffix)
  · split
    · rw [← cur.rest_advance]
      exact readBoundary_embedded hafter start start'
    · split
      · exact .inl (.both rfl hafter hsuffix)
      · exact .inl (.both rfl hafter hsuffix)
      · exact .inl .neither

theorem readEscape_embedded (h : cur.Embedded tail cur') {c : Char} (hc : cur.next? = some c) :
    Simulates tail (· <:+ closing.tail) cur.rest.tail Node.erase (readEscape cur)
        (readEscape cur') ∨
      LeavesBrace (readEscape cur) (readEscape cur') := by
  have hnow := h.advance hc
  have hrest := cur.rest_advance
  have hbase : cur.rest.tail.tail <:+ cur.rest.tail := List.tail_suffix _
  rw [← hrest] at hbase ⊢
  rw [readEscape, readEscape]
  generalize cur.offset = start, cur'.offset = start'
  generalize cur.advance = now at hnow hbase ⊢
  generalize cur'.advance = now' at hnow ⊢
  obtain ⟨d, hd, hd'⟩ | ⟨hend, hend'⟩ | ⟨hend, hclosing⟩ := hnow.next
  · rw [hd, hd']
    dsimp only
    split
    · exact .inl .neither
    · split
      · refine .inl (.map ((simulates_readProperty hnow hd _ start start').within hbase) ?_)
        intro set set' hset
        exact congrArg Node.oneOf hset
      · split
        · refine .inl (.map ((simulates_readHex hnow hd _ start start').within hbase) ?_)
          intro one one' hone
          exact congrArg Node.literal hone
        · exact .inl (.both rfl (hnow.advance hd) (now.rest_advance ▸ hbase))
        · refine (readSimpleEscape_embedded hnow hd start start').imp_left fun hsim => ?_
          exact hsim.within hbase
  · rw [Cursor.next?_of_nil hend, Cursor.next?_of_nil hend']
    exact .inl .neither
  · -- The escape takes the parenthesis that was to close the group.
    rw [Cursor.next?_of_nil hend, Cursor.next?_of_closing hclosing]
    exact .inl (.beyond (Cursor.advance_suffix_of_closing hclosing))

theorem readItem_embedded (h : cur.Embedded tail cur') {c : Char} (hc : cur.next? = some c) :
    Simulates tail (· <:+ closing.tail) cur.rest.tail Node.erase (readItem c cur)
        (readItem c cur') ∨
      LeavesBrace (readItem c cur) (readItem c cur') := by
  have hafter := h.advance hc
  have hsuffix : cur.advance.rest <:+ cur.rest.tail := cur.rest_advance ▸ List.suffix_rfl
  rw [readItem.eq_def, readItem.eq_def]
  dsimp only
  split
  · exact readEscape_embedded h hc
  · exact .inl (.both rfl hafter hsuffix)
  · exact .inl (.both rfl hafter hsuffix)
  · exact .inl (.both rfl hafter hsuffix)
  · exact .inl (.both rfl hafter hsuffix)

end CommandShell.Pattern
