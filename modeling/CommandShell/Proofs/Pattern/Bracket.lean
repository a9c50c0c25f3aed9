import CommandShell.Pattern.Bracket
import CommandShell.Proofs.Pattern.Escape

/-!
# Brackets within longer patterns

A bracket is read alike in a pattern and in a longer one around it (`simulates_readBracket`). Where
the shorter pattern ends within a bracket, so does the longer one, since there is no closing bracket
in the end of a group.
-/

namespace CommandShell.Pattern

variable {tail : List Char} {lost : List Char → Prop} {cur cur' : Cursor}

/-! ## Sets without their places -/

/-- What has been read of a bracket, without places. -/
def SetLevel.erase (level : SetLevel) : SetLevel :=
  ⟨level.pending.map fun (operation, left) => (operation, left.erase), 0,
    level.members.map CharSet.erase⟩

/-- An open bracket without places. -/
def OpenBracket.erase (bracket : OpenBracket) : OpenBracket :=
  ⟨.nowhere, bracket.negated, bracket.level.erase⟩

/-- The union of some members without places is made of the members without places. -/
theorem CharSet.erase_ofMembers (place : Nat) (members : List CharSet) :
    (CharSet.ofMembers place members).erase =
      match members.map CharSet.erase with
      | [] => .union .nowhere []
      | [member] => member
      | members => .union .nowhere members.reverse := by
  match members with
  | [] => rfl
  | [member] => rfl
  | last :: second :: others =>
    rw [CharSet.ofMembers, CharSet.erase, CharSet.eraseAll_eq_map, List.map_reverse]
    · rfl
    · exact nofun

theorem SetLevel.erase_toSet {level level' : SetLevel} (h : level'.erase = level.erase) :
    level'.toSet.erase = level.toSet.erase := by
  obtain ⟨hpending, -, hmembers⟩ := SetLevel.mk.inj h
  have hright : (CharSet.ofMembers level'.place level'.members).erase =
      (CharSet.ofMembers level.place level.members).erase := by
    rw [CharSet.erase_ofMembers, CharSet.erase_ofMembers, hmembers]
  rw [SetLevel.toSet, SetLevel.toSet]
  generalize CharSet.ofMembers level.place level.members = right at hright ⊢
  generalize CharSet.ofMembers level'.place level'.members = right' at hright ⊢
  cases hfound : level.pending with
  | none =>
    rw [hfound, Option.map_none, Option.map_eq_none_iff] at hpending
    rw [hpending]
    exact hright
  | some pending =>
    obtain ⟨operation, left⟩ := pending
    rw [hfound, Option.map_some, Option.map_eq_some_iff] at hpending
    obtain ⟨⟨operation', left'⟩, hfound', hsame⟩ := hpending
    obtain ⟨rfl, hleft⟩ := Prod.mk.inj hsame
    rw [hfound']
    change CharSet.combined _ _ left'.erase right'.erase = .combined _ _ left.erase right.erase
    rw [hleft, hright]

theorem SetLevel.erase_combine {level level' : SetLevel} (h : level'.erase = level.erase)
    (operation : SetOperation) (place place' : Nat) :
    (level'.combine operation place').erase = (level.combine operation place).erase := by
  change SetLevel.mk (some (operation, level'.toSet.erase)) 0 [] =
    ⟨some (operation, level.toSet.erase), 0, []⟩
  rw [SetLevel.erase_toSet h]

theorem OpenBracket.erase_add {bracket bracket' : OpenBracket} (h : bracket'.erase = bracket.erase)
    {member member' : CharSet} (hmember : member'.erase = member.erase) :
    (bracket'.add member').erase = (bracket.add member).erase := by
  obtain ⟨-, hnegated, hlevel⟩ := OpenBracket.mk.inj h
  obtain ⟨hpending, -, hmembers⟩ := SetLevel.mk.inj hlevel
  change OpenBracket.mk .nowhere bracket'.negated
      ⟨bracket'.level.pending.map _, 0, member'.erase :: bracket'.level.members.map CharSet.erase⟩ =
    ⟨.nowhere, bracket.negated,
      ⟨bracket.level.pending.map _, 0, member.erase :: bracket.level.members.map CharSet.erase⟩⟩
  rw [hnegated, hpending, hmembers, hmember]

theorem OpenBracket.erase_close {bracket bracket' : OpenBracket}
    (h : bracket'.erase = bracket.erase) (stop stop' : Nat) :
    (bracket'.close stop').erase = (bracket.close stop).erase := by
  obtain ⟨-, hnegated, hlevel⟩ := OpenBracket.mk.inj h
  change CharSet.bracketed _ bracket'.negated bracket'.level.toSet.erase =
    .bracketed _ bracket.negated bracket.level.toSet.erase
  rw [hnegated, SetLevel.erase_toSet hlevel]

/-! ## Opening brackets -/

/-- Rows of `-` are read alike, up to the end of the shorter pattern. -/
theorem simulates_readDashes (h : cur.Embedded tail cur') (start start' : Nat) {fuel fuel' : Nat}
    (hfuel : cur.rest.length ≤ fuel) (hfuel' : cur'.rest.length ≤ fuel')
    {members members' : List CharSet}
    (hmembers : members'.map CharSet.erase = members.map CharSet.erase) :
    Simulates tail (· <:+ closing) cur.rest (List.map CharSet.erase)
      (readDashes start fuel members cur) (readDashes start' fuel' members' cur') := by
  -- Without a `-`, nothing is read.
  have hstop {cur : Cursor} (hdash : cur.next? ≠ some '-') (start fuel : Nat)
      (members : List CharSet) : readDashes start fuel members cur = .ok (members, cur) := by
    cases fuel with
    | zero => rfl
    | succ fuel => rw [readDashes, if_neg hdash]
  induction fuel generalizing cur cur' fuel' members members' with
  | zero =>
    have hend : cur.next? = none :=
      Cursor.next?_of_nil (List.eq_nil_of_length_eq_zero (Nat.le_zero.mp hfuel))
    have hdash : cur.next? ≠ some '-' := by
      rw [hend]
      exact nofun
    rw [hstop hdash, hstop (mt (h.next_eq_iff (by decide)).mp hdash)]
    exact .both hmembers h List.suffix_rfl
  | succ fuel ih =>
    by_cases hdash : cur.next? = some '-'
    · have hdash' := h.next_eq hdash
      have hlength := Cursor.length_advanceSkipping_lt hdash
      have hlength' := Cursor.length_advanceSkipping_lt hdash'
      have hafter := h.advanceSkipping hdash
      have hsuffix := cur.advanceSkipping_suffix_rest
      obtain ⟨fuel', rfl⟩ : ∃ n, fuel' = n + 1 := ⟨fuel' - 1, by omega⟩
      rw [readDashes, readDashes, if_pos hdash, if_pos hdash']
      dsimp only
      generalize cur.advanceSkipping = after at hlength hafter hsuffix ⊢
      generalize cur'.advanceSkipping = after' at hlength' hafter ⊢
      obtain ⟨c, hc, hc'⟩ | ⟨hend, hend'⟩ | ⟨hend, hclosing⟩ := hafter.next
      · rw [Cursor.atEnd_eq_false hc, Cursor.atEnd_eq_false hc']
        refine (ih hafter (by omega) (by omega) ?_).within hsuffix
        rw [List.map_cons, List.map_cons, hmembers]
        rfl
      · rw [Cursor.atEnd_of_nil hend, Cursor.atEnd_of_nil hend']
        exact .neither
      · rw [Cursor.atEnd_of_nil hend, Cursor.atEnd_eq_false (Cursor.next?_of_closing hclosing)]
        have hdash' : after'.next? ≠ some '-' := by
          rw [Cursor.next?_of_closing hclosing]
          decide
        rw [if_neg Bool.false_ne_true, hstop hdash']
        exact .beyond (Cursor.suffix_of_closing hclosing)
    · rw [hstop hdash, hstop (mt (h.next_eq_iff (by decide)).mp hdash)]
      exact .both hmembers h List.suffix_rfl

/-- The two forms of opening a bracket, without places. -/
theorem erase_openBracket_dashes {dashes dashes' : List CharSet}
    (h : dashes'.map CharSet.erase = dashes.map CharSet.erase) (span span' : Span) (negated : Bool)
    (place place' : Nat) :
    (OpenBracket.mk span' negated ⟨none, place', dashes'⟩).erase =
      (OpenBracket.mk span negated ⟨none, place, dashes⟩).erase := by
  change OpenBracket.mk _ _ ⟨none, 0, dashes'.map CharSet.erase⟩ =
    ⟨_, _, ⟨none, 0, dashes.map CharSet.erase⟩⟩
  rw [h]

/-- Open a bracket whose members begin at the cursor. -/
def openBracketAt (start : Nat) (negated : Bool) (first : Cursor) :
    Except Fault (OpenBracket × Cursor) :=
  if first.atEnd then first.failSince start .classUnclosed
  else do
    let (dashes, after) ← readDashes start first.rest.length [] first
    if dashes.isEmpty ∧ after.next? = some ']' then
      let last := after.advanceSkipping
      if last.atEnd then last.failSince start .classUnclosed
      else return (⟨last.since start, negated, none, first.offset, [plainMember after ']']⟩, last)
    else return (⟨after.since start, negated, none, first.offset, dashes⟩, after)

theorem openBracket_eq (cur : Cursor) :
    openBracket cur =
      let first := cur.advanceSkipping
      openBracketAt cur.offset (first.next? = some '^')
        (if first.next? = some '^' then first.advanceSkipping else first) := by
  rw [openBracket]
  dsimp only
  split
  · next hsign => simp only [hsign, openBracketAt]
  · next hsign => simp only [hsign, openBracketAt]

theorem simulates_openBracketAt (h : cur.Embedded tail cur') (start start' : Nat)
    (negated : Bool) :
    Simulates tail (· <:+ closing) cur.rest OpenBracket.erase (openBracketAt start negated cur)
      (openBracketAt start' negated cur') := by
  rw [openBracketAt, openBracketAt]
  obtain ⟨c, hc, hc'⟩ | ⟨hend, hend'⟩ | ⟨hend, hclosing⟩ := h.next
  · -- A bracket at the very beginning is a member, but not behind dashes.
    rw [Cursor.atEnd_eq_false hc, Cursor.atEnd_eq_false hc']
    refine (simulates_readDashes h start start' (Nat.le_refl _) (Nat.le_refl _) rfl).bind ?_ ?_
    · intro dashes dashes' after after' _ _ hdashes hafter hsuffix
      have hempty : dashes'.isEmpty = dashes.isEmpty := by
        rw [← List.isEmpty_map, hdashes, List.isEmpty_map]
      have hsign := hafter.next_eq_iff (c := ']') (by decide)
      dsimp only
      by_cases hbracket : dashes.isEmpty ∧ after.next? = some ']'
      · have hlast := hafter.advanceSkipping hbracket.2
        have hwithin := after.advanceSkipping_suffix_rest.trans hsuffix
        have hbracket' : dashes'.isEmpty ∧ after'.next? = some ']' :=
          ⟨hempty.trans hbracket.1, hsign.mpr hbracket.2⟩
        rw [if_pos hbracket, if_pos hbracket']
        generalize after.advanceSkipping = last at hlast hwithin ⊢
        generalize after'.advanceSkipping = last' at hlast ⊢
        obtain ⟨d, hd, hd'⟩ | ⟨hend, hend'⟩ | ⟨hend, hclosing⟩ := hlast.next
        · rw [Cursor.atEnd_eq_false hd, Cursor.atEnd_eq_false hd']
          exact .both rfl hlast hwithin
        · rw [Cursor.atEnd_of_nil hend, Cursor.atEnd_of_nil hend']
          exact .neither
        · rw [Cursor.atEnd_of_nil hend, Cursor.atEnd_eq_false (Cursor.next?_of_closing hclosing)]
          exact .beyond (Cursor.suffix_of_closing hclosing)
      · have hbracket' : ¬(dashes'.isEmpty ∧ after'.next? = some ']') := by
          rwa [hempty, hsign]
        rw [if_neg hbracket, if_neg hbracket']
        exact .both (erase_openBracket_dashes hdashes _ _ _ _ _) hafter hsuffix
    · intro dashes after bracket last hlost hlast
      dsimp only at hlast
      split at hlast
      · split at hlast
        · cases hlast
        · cases hlast
          exact after.advanceSkipping_suffix_rest.trans hlost
      · cases hlast
        exact hlost
  · rw [Cursor.atEnd_of_nil hend, Cursor.atEnd_of_nil hend']
    exact .neither
  · -- Neither `-` nor `]` begins the end of a group.
    have hnext := Cursor.next?_of_closing hclosing
    have hdashes : readDashes start' cur'.rest.length [] cur' = .ok ([], cur') := by
      rw [hclosing]
      change readDashes start' (2 + 1) [] cur' = _
      rw [readDashes, if_neg (by rw [hnext]; decide)]
    have hbracket : ¬(([] : List CharSet).isEmpty ∧ cur'.next? = some ']') := by
      rw [hnext]
      decide
    rw [Cursor.atEnd_of_nil hend, Cursor.atEnd_eq_false hnext, hdashes]
    change Simulates _ _ _ _ _
      (if ([] : List CharSet).isEmpty ∧ cur'.next? = some ']' then _ else _)
    rw [if_neg hbracket]
    exact .beyond (Cursor.suffix_of_closing hclosing)

theorem simulates_openBracket (h : cur.Embedded tail cur') {c : Char} (hc : cur.next? = some c) :
    Simulates tail (· <:+ closing) cur.rest.tail OpenBracket.erase (openBracket cur)
      (openBracket cur') := by
  have hfirst := h.advanceSkipping hc
  have hsuffix := cur.advanceSkipping_suffix
  rw [openBracket_eq, openBracket_eq]
  generalize cur.offset = start, cur'.offset = start'
  generalize cur.advanceSkipping = first at hfirst hsuffix ⊢
  generalize cur'.advanceSkipping = first' at hfirst ⊢
  have hsign := hfirst.next_eq_iff (c := '^') (by decide)
  simp only [hsign]
  by_cases hnegated : first.next? = some '^'
  · rw [if_pos hnegated, if_pos hnegated]
    exact (simulates_openBracketAt (hfirst.advanceSkipping hnegated) _ _ _).within
      (first.advanceSkipping_suffix_rest.trans hsuffix)
  · rw [if_neg hnegated, if_neg hnegated]
    exact (simulates_openBracketAt hfirst _ _ _).within hsuffix

/-! ## Classes and operations -/

/-- The name of a class of ASCII characters, and `:]` behind it. -/
theorem after?_colon_embedded (h : cur.Embedded tail cur') :
    let after (cur : Cursor) := (cur.advanceWhile (· != ':')).after? ":]"
    (after cur = none ∧ after cur' = none) ∨
      ∃ last last', after cur = some last ∧ after cur' = some last' ∧ last.Embedded tail last' ∧
        last.rest <:+ cur.rest ∧
          cur'.rest.takeWhile (· != ':') = cur.rest.takeWhile (· != ':') := by
  have hnone {cur : Cursor} (hcolon : ':' ∉ cur.rest) :
      (cur.advanceWhile (· != ':')).after? ":]" = none := by
    have hall : cur.rest.takeWhile (· != ':') = cur.rest :=
      List.takeWhile_eq_self_iff.mpr fun c hc => bne_iff_ne.mpr fun heq => hcolon (heq ▸ hc)
    have hrest : (cur.advanceWhile (· != ':')).rest = [] := by
      rw [Cursor.advanceWhile, Cursor.rest_advanceBy, hall, List.drop_length]
    rw [Cursor.after?, hrest]
    rfl
  dsimp only
  by_cases hcolon : ':' ∈ cur.rest
  · obtain ⟨hname, htake⟩ := h.advanceWhile_of_mem (p := (· != ':')) hcolon rfl
    have hsuffix := cur.advanceWhile_suffix (· != ':')
    obtain hnone | ⟨last, last', hlast, hlast', hafter, hwithin⟩ :=
      hname.after? ":]" (by decide) (by decide)
    · exact .inl hnone
    · exact .inr ⟨last, last', hlast, hlast', hafter,
        (hwithin.trans (List.tail_suffix _)).trans hsuffix, htake⟩
  · have hcolon' : ':' ∉ cur'.rest := by
      rcases h.rest with hrest | hrest
      · rwa [hrest]
      · rw [hrest, List.mem_append]
        cases h.isTail with
        | nothing => simpa using hcolon
        | closing => exact fun hmem => hmem.elim hcolon (by decide)
    exact .inl ⟨hnone hcolon, hnone hcolon'⟩

theorem readAsciiClass?_embedded (h : cur.Embedded tail cur') :
    (readAsciiClass? cur = none ∧ readAsciiClass? cur' = none) ∨
      ∃ set set' after after', readAsciiClass? cur = some (set, after) ∧
        readAsciiClass? cur' = some (set', after') ∧ set'.erase = set.erase ∧
          after.Embedded tail after' ∧ after.rest <:+ cur.rest.tail := by
  rw [readAsciiClass?, readAsciiClass?]
  obtain ⟨hnone, hnone'⟩ | ⟨start, start', hstart, hstart', hinner, hsuffix⟩ :=
    h.after? "[:" (by decide) (by decide)
  · rw [hnone, hnone']
    exact .inl ⟨rfl, rfl⟩
  · rw [hstart, hstart']
    have hsign := hinner.next_eq_iff (c := '^') (by decide)
    -- The name is read behind the sign of negation, if there is one.
    have hname : (if start.next? = some '^' then start.advance else start).Embedded tail
        (if start'.next? = some '^' then start'.advance else start') := by
      simp only [hsign]
      split
      · next hnegated => exact hinner.advance hnegated
      · exact hinner
    have hwithin :
        (if start.next? = some '^' then start.advance else start).rest <:+ start.rest := by
      split
      · exact start.advance_suffix
      · exact List.suffix_rfl
    simp only [Option.bind_eq_bind, Option.bind_some]
    generalize (if start.next? = some '^' then start.advance else start) = name at hname hwithin ⊢
    generalize (if start'.next? = some '^' then start'.advance else start') = name' at hname ⊢
    have hcolon := after?_colon_embedded hname
    dsimp only at hcolon
    obtain ⟨hnone, hnone'⟩ | ⟨last, last', hlast, hlast', hafter, hleft, htake⟩ := hcolon
    · rw [hnone, hnone']
      exact .inl ⟨rfl, rfl⟩
    · rw [hlast, hlast', htake]
      simp only [Option.bind_some, hsign]
      cases AsciiClass.ofName? (String.ofList (name.rest.takeWhile (· != ':'))) with
      | none => exact .inl ⟨rfl, rfl⟩
      | some kind =>
        exact .inr ⟨_, _, last, last', rfl, rfl, rfl, hafter,
          (hleft.trans hwithin).trans hsuffix⟩

theorem readOperation?_embedded (h : cur.Embedded tail cur') :
    (readOperation? cur = none ∧ readOperation? cur' = none) ∨
      ∃ operation after after', readOperation? cur = some (operation, after) ∧
        readOperation? cur' = some (operation, after') ∧ after.Embedded tail after' ∧
          after.rest <:+ cur.rest.tail := by
  rw [readOperation?, readOperation?]
  obtain ⟨hand, hand'⟩ | ⟨after, after', hand, hand', hafter⟩ :=
    h.after? "&&" (by decide) (by decide)
  · obtain ⟨hminus, hminus'⟩ | ⟨after, after', hminus, hminus', hafter⟩ :=
      h.after? "--" (by decide) (by decide)
    · obtain ⟨htilde, htilde'⟩ | ⟨after, after', htilde, htilde', hafter⟩ :=
        h.after? "~~" (by decide) (by decide)
      · rw [hand, hand', hminus, hminus', htilde, htilde']
        exact .inl ⟨rfl, rfl⟩
      · rw [hand, hand', hminus, hminus', htilde, htilde']
        exact .inr ⟨_, after, after', rfl, rfl, hafter⟩
    · rw [hand, hand', hminus, hminus']
      exact .inr ⟨_, after, after', rfl, rfl, hafter⟩
  · rw [hand, hand']
    exact .inr ⟨_, after, after', rfl, rfl, hafter⟩

/-! ## Members -/

theorem readSetItem_embedded (h : cur.Embedded tail cur') {c : Char} (hc : cur.next? = some c) :
    Simulates tail (· <:+ closing.tail) cur.rest.tail Node.erase (readSetItem c cur)
        (readSetItem c cur') ∨
      LeavesBrace (readSetItem c cur) (readSetItem c cur') := by
  rw [readSetItem, readSetItem]
  split
  · exact readEscape_embedded h hc
  · exact .inl (.both rfl (h.advance hc) (cur.rest_advance ▸ List.suffix_rfl))

/-- Reading an item goes on behind its first character. -/
theorem readSetItem_suffix {c : Char} (hc : cur.next? = some c) {node : Node} {after : Cursor}
    (h : readSetItem c cur = .ok (node, after)) : after.rest <:+ cur.rest.tail := by
  rcases readSetItem_embedded (.refl .nothing cur) hc with hsim | ⟨⟨fault, hfault⟩, -⟩
  · exact hsim.suffix_of_ok h
  · rw [hfault] at h
    cases h

/-- Which member an item stands for does not depend on places. -/
theorem toOption_memberOf {node node' : Node} (h : node'.erase = node.erase) :
    (memberOf node').toOption.map CharSet.erase = (memberOf node).toOption.map CharSet.erase := by
  have hmember (node : Node) : (memberOf node).toOption.map CharSet.erase =
      (memberOf node.erase).toOption := by
    cases node <;> rfl
  rw [hmember, hmember, h]

/-- Which character a bound stands for does not depend on places. -/
theorem toOption_boundOf {node node' : Node} (h : node'.erase = node.erase) :
    (boundOf node').toOption.map Literal.erase = (boundOf node).toOption.map Literal.erase := by
  have hbound (node : Node) : (boundOf node).toOption.map Literal.erase =
      (boundOf node.erase).toOption := by
    cases node <;> rfl
  rw [hbound, hbound, h]

/-- A range from the first item to the one that begins at the cursor. -/
def rangeAfter (opening : Span) (first : Node) (second : Cursor) :
    Except Fault (CharSet × Cursor) :=
  match second.next? with
  | none => .error (.inPart .classUnclosed opening)
  | some d => do
    let (last, after) ← readSetItem d second
    let span : Span := ⟨first.span.start, last.span.stop⟩
    let low ← boundOf first
    let high ← boundOf last
    if low.char ≤ high.char then return (.range span low high, after)
    else .error (.inPart .classRangeInvalid span)

/-- The member that begins with the first item; the cursor is after that. -/
def memberAfter (opening : Span) (first : Node) (after : Cursor) :
    Except Fault (CharSet × Cursor) :=
  if after.atEnd then .error (.inPart .classUnclosed opening)
  else if after.next? ≠ some '-' ∨ after.peek? = some ']' ∨ after.peek? = some '-' then do
    return (← memberOf first, after)
  else rangeAfter opening first after.advanceSkipping

theorem readMember_eq (opening : Span) (c : Char) (cur : Cursor) :
    readMember opening c cur = (do
      let (first, after) ← readSetItem c cur
      memberAfter opening first after.skipBlanks) := rfl

theorem rangeAfter_suffix {opening : Span} {first : Node} {set : CharSet} {after : Cursor}
    (h : rangeAfter opening first cur = .ok (set, after)) : after.rest <:+ cur.rest.tail := by
  rw [rangeAfter] at h
  split at h
  · cases h
  · next d hnext =>
    obtain ⟨⟨last, after'⟩, hitem, h⟩ := exists_of_bind_eq_ok h
    obtain ⟨low, -, h⟩ := exists_of_bind_eq_ok h
    obtain ⟨high, -, h⟩ := exists_of_bind_eq_ok h
    split at h
    · cases h
      exact readSetItem_suffix hnext hitem
    · cases h

theorem memberAfter_suffix {opening : Span} {first : Node} {set : CharSet} {after : Cursor}
    (h : memberAfter opening first cur = .ok (set, after)) : after.rest <:+ cur.rest := by
  rw [memberAfter] at h
  split at h
  · cases h
  · split at h
    · obtain ⟨member, -, h⟩ := exists_of_bind_eq_ok h
      cases h
      exact List.suffix_rfl
    · exact ((rangeAfter_suffix h).trans (List.tail_suffix _)).trans cur.advanceSkipping_suffix_rest

theorem simulates_rangeAfter (h : cur.Embedded tail cur') (opening opening' : Span)
    {first first' : Node} (hfirst : first'.erase = first.erase) :
    Simulates tail (· <:+ closing) cur.rest CharSet.erase (rangeAfter opening first cur)
      (rangeAfter opening' first' cur') := by
  have hlow := ok_or_error_of_toOption (toOption_boundOf hfirst)
  obtain ⟨d, hd, hd'⟩ | ⟨hend, hend'⟩ | ⟨hend, hclosing⟩ := h.next
  · rw [rangeAfter, rangeAfter, hd, hd']
    dsimp only
    rcases readSetItem_embedded h hd with hsim | ⟨⟨fault, hitem⟩, span, after', hitem', -, -⟩
    · refine hsim.bind ?_ ?_
      · intro last last' after after' _ _ hlast hafter hsuffix
        obtain ⟨low, low', hok, hok', hsame⟩ | ⟨fault, fault', herror, herror'⟩ := hlow
        · obtain ⟨high, high', hhigh, hhigh', hsameHigh⟩ | ⟨fault, fault', herror, herror'⟩ :=
            ok_or_error_of_toOption (toOption_boundOf hlast)
          · -- The bounds are the same characters, so both ranges are in order or neither is.
            obtain ⟨-, hlowChar, -⟩ := Literal.mk.inj hsame
            obtain ⟨-, hhighChar, -⟩ := Literal.mk.inj hsameHigh
            dsimp only
            rw [hok, hok', hhigh, hhigh']
            change Simulates _ _ _ _ (if low.char ≤ high.char then _ else _)
              (if low'.char ≤ high'.char then _ else _)
            rw [hlowChar, hhighChar]
            split
            · refine .both ?_ hafter (hsuffix.trans (List.tail_suffix _))
              rw [CharSet.erase, CharSet.erase, hsame, hsameHigh]
            · exact .neither
          · dsimp only
            rw [hok, hok', herror, herror']
            exact .neither
        · dsimp only
          rw [herror, herror']
          exact .neither
      · intro last after set after' hlost hafter
        obtain ⟨low, -, hafter⟩ := exists_of_bind_eq_ok hafter
        obtain ⟨high, -, hafter⟩ := exists_of_bind_eq_ok hafter
        split at hafter
        · cases hafter
          exact hlost.trans (List.tail_suffix _)
        · cases hafter
    · -- A word boundary is no bound of a range.
      rw [hitem, hitem']
      change Simulates _ _ _ _ (.error fault) (boundOf first' >>= fun low =>
        boundOf (.anchor span .wordBoundary) >>= _)
      cases boundOf first' <;> exact .neither
  · rw [rangeAfter, rangeAfter, Cursor.next?_of_nil hend, Cursor.next?_of_nil hend']
    exact .neither
  · rw [rangeAfter, Cursor.next?_of_nil hend]
    refine .of_error fun set after hrange => ?_
    exact (rangeAfter_suffix hrange).trans ((List.tail_suffix _).trans
      (Cursor.suffix_of_closing hclosing))

theorem simulates_memberAfter (h : cur.Embedded tail cur') (opening opening' : Span)
    {first first' : Node} (hfirst : first'.erase = first.erase) :
    Simulates tail (· <:+ closing) cur.rest CharSet.erase (memberAfter opening first cur)
      (memberAfter opening' first' cur') := by
  obtain ⟨d, hd, hd'⟩ | ⟨hend, hend'⟩ | ⟨hend, hclosing⟩ := h.next
  · have hdash := h.next_eq_iff (c := '-') (by decide)
    have hpeek := h.peek?_eq_iff hd (d := ']') (by decide) (by decide) (by decide)
    have hpeekDash := h.peek?_eq_iff hd (d := '-') (by decide) (by decide) (by decide)
    rw [memberAfter, memberAfter, Cursor.atEnd_eq_false hd, Cursor.atEnd_eq_false hd',
      if_neg Bool.false_ne_true, if_neg Bool.false_ne_true]
    -- Which sign follows the `-` tells a member from the first bound of a range.
    by_cases hmember : cur.next? ≠ some '-' ∨ cur.peek? = some ']' ∨ cur.peek? = some '-'
    · have hmember' : cur'.next? ≠ some '-' ∨ cur'.peek? = some ']' ∨ cur'.peek? = some '-' := by
        rwa [Ne, hdash, hpeek, hpeekDash]
      rw [if_pos hmember, if_pos hmember']
      obtain ⟨set, set', hok, hok', hsame⟩ | ⟨fault, fault', herror, herror'⟩ :=
        ok_or_error_of_toOption (toOption_memberOf hfirst)
      · rw [hok, hok']
        exact .both hsame h List.suffix_rfl
      · rw [herror, herror']
        exact .neither
    · have hmember' :
          ¬(cur'.next? ≠ some '-' ∨ cur'.peek? = some ']' ∨ cur'.peek? = some '-') := by
        rwa [Ne, hdash, hpeek, hpeekDash]
      rw [if_neg hmember, if_neg hmember']
      exact (simulates_rangeAfter (h.advanceSkipping hd) _ _ hfirst).within
        cur.advanceSkipping_suffix_rest
  · rw [memberAfter, memberAfter, Cursor.atEnd_of_nil hend, Cursor.atEnd_of_nil hend']
    exact .neither
  · rw [memberAfter, Cursor.atEnd_of_nil hend]
    exact .of_error fun set after hmember =>
      (memberAfter_suffix hmember).trans (Cursor.suffix_of_closing hclosing)

/-- A condition on the place is neither a member of a set nor a bound of a range. -/
theorem memberAfter_anchor_ne_ok (opening : Span) {span : Span} {kind : Anchor}
    {read : CharSet × Cursor} : memberAfter opening (.anchor span kind) cur ≠ .ok read := by
  intro h
  rw [memberAfter] at h
  split at h
  · cases h
  · split at h
    · cases h
    · rw [rangeAfter] at h
      split at h
      · cases h
      · obtain ⟨_, -, h⟩ := exists_of_bind_eq_ok h
        cases h

theorem simulates_readMember (h : cur.Embedded tail cur') (opening opening' : Span) {c : Char}
    (hc : cur.next? = some c) :
    Simulates tail (· <:+ closing) cur.rest.tail CharSet.erase (readMember opening c cur)
      (readMember opening' c cur') := by
  rw [readMember_eq, readMember_eq]
  rcases readSetItem_embedded h hc with hsim | ⟨⟨fault, hitem⟩, span, after', hitem', hbrace, -⟩
  · refine hsim.bind ?_ ?_
    · intro first first' after after' _ _ hfirst hafter hsuffix
      exact (simulates_memberAfter hafter.skipBlanks _ _ hfirst).within
        (after.skipBlanks_suffix.trans hsuffix)
    · intro first after set last hlost hlast
      exact ((memberAfter_suffix hlast).trans after.skipBlanks_suffix).trans
        (hlost.trans (List.tail_suffix _))
  · rw [hitem, hitem']
    exact .of_error fun set last hmember => (memberAfter_anchor_ne_ok _ hmember).elim

/-! ## Whole brackets -/

theorem openBracket_suffix {c : Char} (hc : cur.next? = some c) {bracket : OpenBracket}
    {after : Cursor} (h : openBracket cur = .ok (bracket, after)) : after.rest <:+ cur.rest.tail :=
  (simulates_openBracket (.refl .nothing cur) hc).suffix_of_ok h

theorem readAsciiClass?_suffix {set : CharSet} {after : Cursor}
    (h : readAsciiClass? cur = some (set, after)) : after.rest <:+ cur.rest.tail := by
  obtain ⟨hnone, -⟩ | ⟨_, _, _, _, hsome, -, -, -, hsuffix⟩ :=
    readAsciiClass?_embedded (.refl .nothing cur)
  · rw [hnone] at h
    cases h
  · rw [hsome] at h
    cases h
    exact hsuffix

theorem readOperation?_suffix {operation : SetOperation} {after : Cursor}
    (h : readOperation? cur = some (operation, after)) : after.rest <:+ cur.rest.tail := by
  obtain ⟨hnone, -⟩ | ⟨_, _, _, hsome, -, -, hsuffix⟩ :=
    readOperation?_embedded (.refl .nothing cur)
  · rw [hnone] at h
    cases h
  · rw [hsome] at h
    cases h
    exact hsuffix

theorem readMember_suffix {opening : Span} {c : Char} (hc : cur.next? = some c) {set : CharSet}
    {after : Cursor} (h : readMember opening c cur = .ok (set, after)) :
    after.rest <:+ cur.rest.tail :=
  (simulates_readMember (.refl .nothing cur) opening opening hc).suffix_of_ok h

/-- What is left of a longer pattern beyond the end of the shorter one closes no bracket. -/
theorem readBracketed_of_suffix_closing (h : cur.skipBlanks.rest <:+ closing) (fuel : Nat)
    (inner : OpenBracket) (outer : List OpenBracket) :
    ∃ fault, readBracketed fuel inner outer cur = .error fault := by
  induction fuel generalizing cur inner with
  | zero => exact ⟨_, rfl⟩
  | succ fuel ih =>
    rw [readBracketed]
    generalize cur.skipBlanks = now at h ⊢
    have hgoes {after : Cursor} (hsuffix : after.rest <:+ now.rest.tail) :
        after.skipBlanks.rest <:+ closing :=
      (after.skipBlanks_suffix.trans hsuffix).trans ((List.tail_suffix _).trans h)
    have hmem {c : Char} (hnext : now.next? = some c) : c ∈ closing :=
      h.subset (Cursor.rest_eq_cons hnext ▸ List.mem_cons_self)
    dsimp only
    split
    · exact ⟨_, rfl⟩
    · next hnext => exact absurd (hmem hnext) (by decide)
    · next hnext => exact absurd (hmem hnext) (by decide)
    · next c _ _ hnext =>
      cases hoperation : readOperation? now with
      | some read => exact ih (hgoes (readOperation?_suffix hoperation)) _
      | none =>
        cases hmember : readMember inner.span c now with
        | error fault => exact ⟨fault, rfl⟩
        | ok read => exact ih (hgoes (readMember_suffix hnext hmember)) _

theorem simulates_readBracketed (h : cur.Embedded tail cur') {fuel fuel' : Nat}
    (hfuel : cur.rest.length < fuel) (hfuel' : cur'.rest.length < fuel')
    {inner inner' : OpenBracket} (hinner : inner'.erase = inner.erase)
    {outer outer' : List OpenBracket}
    (houter : outer'.map OpenBracket.erase = outer.map OpenBracket.erase) :
    Simulates tail lost cur.rest CharSet.erase (readBracketed fuel inner outer cur)
      (readBracketed fuel' inner' outer' cur') := by
  induction fuel generalizing cur cur' fuel' inner inner' outer outer' with
  | zero => cases hfuel
  | succ fuel ih =>
    obtain ⟨fuel', rfl⟩ : ∃ n, fuel' = n + 1 := ⟨fuel' - 1, by omega⟩
    have hnow := h.skipBlanks
    have hsuffix := cur.skipBlanks_suffix
    have hlength := hsuffix.length_le
    have hlength' := cur'.skipBlanks_suffix.length_le
    obtain ⟨c, hc, hc'⟩ | ⟨hend, hend'⟩ | ⟨hend, hclosing⟩ := hnow.next
    · rw [readBracketed, readBracketed]
      generalize cur.skipBlanks = now at hnow hsuffix hlength hc ⊢
      generalize cur'.skipBlanks = now' at hnow hlength' hc' ⊢
      dsimp only
      rw [hc, hc']
      -- Whatever is read next, the rest gets shorter, and so does what the fuel is for.
      have hwithin {after : Cursor} (hafter : after.rest <:+ now.rest.tail) :
          after.rest <:+ cur.rest :=
        (hafter.trans (List.tail_suffix _)).trans hsuffix
      have hless {after : Cursor} (hafter : after.rest <:+ now.rest.tail) :
          after.rest.length < fuel := by
        have hafter := Cursor.length_lt_of_suffix hc hafter
        omega
      have hless' {after : Cursor} (hafter : after.rest <:+ now'.rest.tail) :
          after.rest.length < fuel' := by
        have hafter := Cursor.length_lt_of_suffix hc' hafter
        omega
      split
      · next heq => cases heq
      · -- An opening bracket begins a class of ASCII characters or a bracket within this one.
        obtain ⟨hnone, hnone'⟩ | ⟨set, set', after, after', hsome, hsome', hset, hafter, hleft⟩ :=
          readAsciiClass?_embedded hnow
        · rw [hnone, hnone']
          refine (simulates_openBracket hnow hc).bind ?_ ?_
          · intro opened opened' after after' _ hok' hopened hafter hleft
            have hless' := hless' (openBracket_suffix hc' hok')
            refine (ih hafter (hless hleft) hless' hopened ?_).within (hwithin hleft)
            rw [List.map_cons, List.map_cons, hinner, houter]
          · intro opened after set last hlost hlast
            obtain ⟨fault, hfault⟩ := readBracketed_of_suffix_closing
              (after.skipBlanks_suffix.trans hlost) fuel' opened (inner' :: outer')
            rw [hfault] at hlast
            cases hlast
        · rw [hsome, hsome']
          exact (ih hafter (hless hleft) (hless' (readAsciiClass?_suffix hsome'))
            (OpenBracket.erase_add hinner hset) houter).within (hwithin hleft)
      · -- A closing bracket ends this one, which is a member of the one around it, if any.
        have hafter := hnow.advance hc
        have hleft : now.advance.rest <:+ now.rest.tail := now.rest_advance ▸ List.suffix_rfl
        have hleft' : now'.advance.rest <:+ now'.rest.tail := now'.rest_advance ▸ List.suffix_rfl
        have hset := OpenBracket.erase_close hinner now.advance.offset now'.advance.offset
        cases outer with
        | nil =>
          obtain rfl : outer' = [] := List.map_eq_nil_iff.mp houter
          exact .both hset hafter (hwithin hleft)
        | cons parent others =>
          obtain ⟨parent', others', rfl, hparent, hothers⟩ := List.map_eq_cons_iff.mp houter
          exact (ih hafter (hless hleft) (hless' hleft') (OpenBracket.erase_add hparent hset)
            hothers).within (hwithin hleft)
      · -- Anything else is an operation on what has been read, or a member.
        next heq =>
        obtain rfl := Option.some.inj heq
        obtain ⟨hnone, hnone'⟩ | ⟨operation, after, after', hsome, hsome', hafter, hleft⟩ :=
          readOperation?_embedded hnow
        · rw [hnone, hnone']
          refine (simulates_readMember hnow _ _ hc).bind ?_ ?_
          · intro member member' after after' _ hok' hmember hafter hleft
            exact (ih hafter (hless hleft) (hless' (readMember_suffix hc' hok'))
              (OpenBracket.erase_add hinner hmember) houter).within (hwithin hleft)
          · intro member after set last hlost hlast
            obtain ⟨fault, hfault⟩ := readBracketed_of_suffix_closing
              (after.skipBlanks_suffix.trans hlost) fuel' (inner'.add member) outer'
            rw [hfault] at hlast
            cases hlast
        · rw [hsome, hsome']
          have hless' := hless' (readOperation?_suffix hsome')
          refine (ih hafter (hless hleft) hless' ?_ houter).within (hwithin hleft)
          obtain ⟨-, hnegated, hlevel⟩ := OpenBracket.mk.inj hinner
          change OpenBracket.mk .nowhere inner'.negated (inner'.level.combine _ _).erase =
            ⟨.nowhere, inner.negated, (inner.level.combine _ _).erase⟩
          rw [hnegated, SetLevel.erase_combine hlevel]
    · rw [readBracketed, readBracketed]
      dsimp only
      rw [Cursor.next?_of_nil hend, Cursor.next?_of_nil hend']
      exact .neither
    · -- Neither pattern closes the bracket.
      obtain ⟨fault, hfault⟩ := readBracketed_of_suffix_closing
        (Cursor.suffix_of_closing hclosing) (fuel' + 1) inner' outer'
      rw [hfault, readBracketed]
      dsimp only
      rw [Cursor.next?_of_nil hend]
      exact .neither

/-- A bracket is read alike in a longer pattern. -/
theorem simulates_readBracket (h : cur.Embedded tail cur') {c : Char} (hc : cur.next? = some c) :
    Simulates tail lost cur.rest.tail CharSet.erase (readBracket cur) (readBracket cur') := by
  have hc' := h.next_eq hc
  rw [readBracket, readBracket]
  refine (simulates_openBracket h hc).bind ?_ ?_
  · intro opened opened' after after' _ hok' hopened hafter hleft
    exact (simulates_readBracketed hafter (Cursor.length_lt_of_suffix hc hleft)
      (Cursor.length_lt_of_suffix hc' (openBracket_suffix hc' hok')) hopened rfl).within hleft
  · intro opened after set last hlost hlast
    obtain ⟨fault, hfault⟩ := readBracketed_of_suffix_closing
      (after.skipBlanks_suffix.trans hlost) cur'.rest.length opened []
    dsimp only at hlast
    rw [hfault] at hlast
    cases hlast

end CommandShell.Pattern
