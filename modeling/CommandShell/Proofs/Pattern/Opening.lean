import CommandShell.Pattern.Opening
import CommandShell.Proofs.Pattern.Embedding

/-!
# Opening parentheses within longer patterns

What an opening parenthesis begins is read alike in a pattern and in a longer one around it
(`simulates_readOpening`). Where the shorter pattern ends among flags, those of the longer one are
completed by the parenthesis that was to close the group.
-/

namespace CommandShell.Pattern

variable {tail : List Char} {lost : List Char → Prop} {cur cur' : Cursor}

/-- What an opening parenthesis begins, without its place. -/
def Opening.erase : Opening → Opening
  | .group _ change => .group .nowhere change
  | .flags _ change => .flags .nowhere change

/-! ## Flags -/

/-- Whether something is found does not depend on what is found. -/
theorem lookup_eq_none_iff_of_map_fst {α β : Type} [BEq α] [LawfulBEq α]
    {items items' : List (α × β)} (h : items'.map Prod.fst = items.map Prod.fst) (a : α) :
    items'.lookup a = none ↔ items.lookup a = none := by
  have hmem (items : List (α × β)) : items.lookup a = none ↔ a ∉ items.map Prod.fst := by
    rw [List.lookup_eq_none_iff, List.mem_map]
    constructor
    · rintro hall ⟨item, hitem, rfl⟩
      simpa using hall item hitem
    · intro hnone item hitem
      exact bne_iff_ne.mpr fun heq => hnone ⟨item, hitem, heq.symm⟩
  rw [hmem, hmem, h]

/-- Flags are read alike, up to the end of the shorter pattern. -/
theorem simulates_readFlagItems (h : cur.Embedded tail cur') {fuel fuel' : Nat}
    (hfuel : cur.rest.length < fuel) (hfuel' : cur'.rest.length < fuel')
    {items items' : List (FlagItem × Span)} (hitems : items'.map Prod.fst = items.map Prod.fst) :
    Simulates tail (· <:+ closing) cur.rest (List.map Prod.fst) (readFlagItems fuel items cur)
      (readFlagItems fuel' items' cur') := by
  induction fuel generalizing cur cur' fuel' items items' with
  | zero => cases hfuel
  | succ fuel ih =>
    obtain ⟨fuel', rfl⟩ : ∃ n, fuel' = n + 1 := ⟨fuel' - 1, by omega⟩
    rw [readFlagItems, readFlagItems]
    obtain ⟨c, hc, hc'⟩ | ⟨hend, hend'⟩ | ⟨hend, hclosing⟩ := h.next
    · have hlength := Cursor.length_advance_lt hc
      have hlength' := Cursor.length_advance_lt hc'
      rw [hc, hc']
      dsimp only
      split
      · exact .both hitems h List.suffix_rfl
      · cases hitem : FlagItem.ofChar? c with
        | none => exact .neither
        | some item =>
          have hlookup := lookup_eq_none_iff_of_map_fst hitems item
          dsimp only
          cases hfound : items.lookup item with
          | some earlier =>
            cases hfound' : items'.lookup item with
            | some earlier' => exact .neither
            | none => rw [hlookup.mp hfound'] at hfound; cases hfound
          | none =>
            rw [hlookup.mpr hfound]
            refine (ih (h.advance hc) (by omega) (by omega) ?_).within ?_
            · rw [List.map_cons, List.map_cons, hitems]
            · rw [Cursor.rest_advance]
              exact List.tail_suffix _
    · rw [Cursor.next?_of_nil hend, Cursor.next?_of_nil hend']
      exact .neither
    · -- The closing parenthesis ends the flags of the longer pattern.
      rw [Cursor.next?_of_nil hend, Cursor.next?_of_closing hclosing]
      exact .beyond (Cursor.suffix_of_closing hclosing)

theorem simulates_readFlags (h : cur.Embedded tail cur') :
    Simulates tail (· <:+ closing) cur.rest id (readFlags cur) (readFlags cur') := by
  rw [readFlags, readFlags]
  refine (simulates_readFlagItems h (Nat.lt_succ_self _) (Nat.lt_succ_self _) rfl).bind ?_ ?_
  · intro items items' after after' _ _ hitems hafter hsuffix
    have hchange : items'.reverse.map (·.1) = items.reverse.map (·.1) := by
      rw [List.map_reverse, List.map_reverse, hitems]
    cases items with
    | nil =>
      obtain rfl : items' = [] := List.map_eq_nil_iff.mp hitems
      exact .both rfl hafter hsuffix
    | cons item others =>
      obtain ⟨item', others', rfl, hfst, -⟩ := List.map_eq_cons_iff.mp hitems
      obtain ⟨kind, span⟩ := item
      obtain ⟨kind', span'⟩ := item'
      obtain rfl : kind' = kind := hfst
      cases kind' with
      | negation => exact .neither
      | flag flag => exact .both (congrArg (flagChange false) hchange) hafter hsuffix
  · intro items after change last hlost hlast
    dsimp only at hlast
    split at hlast
    · cases hlast
    · cases hlast
      exact hlost

/-! ## Names -/

theorem simulates_readNameChars (h : cur.Embedded tail cur') {fuel fuel' : Nat}
    (hfuel : cur.rest.length < fuel) (hfuel' : cur'.rest.length < fuel') (name : List Char) :
    Simulates tail lost cur.rest id (readNameChars fuel name cur)
      (readNameChars fuel' name cur') := by
  induction fuel generalizing cur cur' fuel' name with
  | zero => cases hfuel
  | succ fuel ih =>
    obtain ⟨fuel', rfl⟩ : ∃ n, fuel' = n + 1 := ⟨fuel' - 1, by omega⟩
    rw [readNameChars, readNameChars]
    obtain ⟨c, hc, hc'⟩ | ⟨hend, hend'⟩ | ⟨hend, hclosing⟩ := h.next
    · have hlength := Cursor.length_advance_lt hc
      have hlength' := Cursor.length_advance_lt hc'
      rw [hc, hc']
      dsimp only
      split
      · exact .both rfl h List.suffix_rfl
      · split
        · refine (ih (h.advance hc) (by omega) (by omega) _).within ?_
          rw [Cursor.rest_advance]
          exact List.tail_suffix _
        · exact .neither
    · rw [Cursor.next?_of_nil hend, Cursor.next?_of_nil hend']
      exact .neither
    · rw [Cursor.next?_of_nil hend, Cursor.next?_of_closing hclosing]
      -- The closing parenthesis may not stand in a name.
      have hparenthesis (first : Bool) : isGroupNameChar first ')' = false := by
        cases first <;> decide +kernel
      dsimp only
      rw [if_neg (by decide), if_neg (by rw [hparenthesis]; exact Bool.false_ne_true)]
      exact .neither

/-- A name is read up to the sign that closes it. -/
theorem next?_of_readNameChars {fuel : Nat} (hfuel : cur.rest.length < fuel)
    {name name' : List Char} {last : Cursor}
    (h : readNameChars fuel name cur = .ok (name', last)) : last.next? = some '>' := by
  induction fuel generalizing cur name with
  | zero => cases hfuel
  | succ fuel ih =>
    rw [readNameChars] at h
    cases hnext : cur.next? with
    | none =>
      rw [hnext] at h
      cases h
    | some c =>
      have hlength := Cursor.length_advance_lt hnext
      rw [hnext] at h
      dsimp only at h
      split at h
      · next hc =>
        cases h
        rw [hnext, hc]
      · split at h
        · exact ih (by omega) h
        · cases h

/-- Take the characters that have been read from `start` for the name of a group. -/
def takeName (start : Cursor) (name : List Char) (last : Cursor) : Except Fault Cursor :=
  let span := last.since start.offset
  if name.isEmpty then .error (.inPart .groupNameEmpty start.here)
  else
    match last.names.lookup name with
    | some earlier => .error ⟨.groupNameDuplicate, span, some earlier⟩
    | none => return { last.advance with names := (name, span) :: last.names }

theorem readGroupName_eq (cur : Cursor) :
    readGroupName cur = readNameChars (cur.rest.length + 1) [] cur >>= fun read =>
      takeName cur read.1 read.2 := rfl

theorem simulates_readGroupName (h : cur.Embedded tail cur') :
    Simulates tail lost cur.rest id ((readGroupName cur).map fun after => ((), after))
      ((readGroupName cur').map fun after => ((), after)) := by
  have hmap (cur : Cursor) : ((readGroupName cur).map fun after => ((), after)) =
      readNameChars (cur.rest.length + 1) [] cur >>= fun read =>
        (takeName cur read.1 read.2).map fun after => ((), after) := by
    rw [readGroupName_eq]
    cases readNameChars (cur.rest.length + 1) [] cur <;> rfl
  have hread : Simulates tail (fun _ => False) cur.rest id
      (readNameChars (cur.rest.length + 1) [] cur) (readNameChars (cur'.rest.length + 1) [] cur') :=
    simulates_readNameChars h (Nat.lt_succ_self _) (Nat.lt_succ_self _) []
  rw [hmap, hmap]
  -- A name never goes on beyond the shorter pattern; it is taken if no group has it yet.
  refine hread.bind_of_never ?_
  intro name name' last last' hok _ hname hlast hsuffix
  obtain rfl : name' = name := hname
  have hafter := hlast.advance (next?_of_readNameChars (Nat.lt_succ_self _) hok)
  have hlookup := lookup_eq_none_iff_of_map_fst hlast.names name'
  dsimp only
  rw [takeName, takeName]
  split
  · exact .neither
  · cases hfound : last.names.lookup name' with
    | some earlier =>
      cases hfound' : last'.names.lookup name' with
      | some earlier' => exact .neither
      | none =>
        rw [hlookup.mp hfound'] at hfound
        cases hfound
    | none =>
      rw [hlookup.mpr hfound]
      refine .both rfl ⟨hafter.isTail, hafter.rest, hafter.extended, ?_⟩ ?_
      · rw [List.map_cons, List.map_cons, hlast.names]
      · exact last.advance_suffix.trans hsuffix

/-! ## Openings -/

/-- Flags are read up to the sign that ends them. -/
theorem next?_of_readFlagItems {fuel : Nat} (hfuel : cur.rest.length < fuel)
    {items items' : List (FlagItem × Span)} {last : Cursor}
    (h : readFlagItems fuel items cur = .ok (items', last)) : ∃ c, last.next? = some c := by
  induction fuel generalizing cur items with
  | zero => cases hfuel
  | succ fuel ih =>
    rw [readFlagItems] at h
    cases hnext : cur.next? with
    | none =>
      rw [hnext] at h
      cases h
    | some c =>
      have hlength := Cursor.length_advance_lt hnext
      rw [hnext] at h
      dsimp only at h
      split at h
      · cases h
        exact ⟨c, hnext⟩
      · split at h
        · cases h
        · split at h
          · cases h
          · exact ih (by omega) h

theorem next?_of_readFlags {change : FlagChange} {last : Cursor}
    (h : readFlags cur = .ok (change, last)) : ∃ c, last.next? = some c := by
  rw [readFlags] at h
  obtain ⟨⟨items, after⟩, hitems, h⟩ := exists_of_bind_eq_ok h
  dsimp only at h
  split at h
  · cases h
  · cases h
    exact next?_of_readFlagItems (Nat.lt_succ_self _) hitems

/-- Without any flag, the closing parenthesis ends the flags at once. -/
theorem readFlags_of_closing (h : cur.rest = closing) : readFlags cur = .ok ([], cur) := by
  have hitems : readFlagItems (cur.rest.length + 1) [] cur = .ok ([], cur) := by
    rw [readFlagItems, Cursor.next?_of_closing h]
    rfl
  rw [readFlags, hitems]
  rfl

theorem simulates_readFlagOpening (h : cur.Embedded tail cur') (start start' mark mark' : Nat) :
    Simulates tail (· <:+ closing.tail) cur.rest Opening.erase (readFlagOpening start mark cur)
      (readFlagOpening start' mark' cur') := by
  rw [readFlagOpening, readFlagOpening]
  obtain ⟨c, hc, hc'⟩ | ⟨hend, hend'⟩ | ⟨hend, hclosing⟩ := h.next
  · rw [Cursor.atEnd_eq_false hc, Cursor.atEnd_eq_false hc', if_neg Bool.false_ne_true,
      if_neg Bool.false_ne_true]
    refine (simulates_readFlags h).bind ?_ ?_
    · intro change change' last last' hok _ hchange hlast hsuffix
      obtain rfl : change' = change := hchange
      obtain ⟨d, hd⟩ := next?_of_readFlags hok
      have hbase : last.advance.rest <:+ cur.rest :=
        last.advance_suffix.trans hsuffix
      dsimp only
      rw [hd, hlast.next_eq hd]
      split
      · split
        · exact .neither
        · exact .both rfl (hlast.advance hd) hbase
      · exact .both rfl (hlast.advance hd) hbase
    · intro change last opening after hlost hafter
      have hleft : last.advance.rest <:+ closing.tail := by
        rw [Cursor.rest_advance]
        exact tail_suffix_tail hlost
      dsimp only at hafter
      split at hafter
      · split at hafter
        · cases hafter
        · cases hafter
          exact hleft
      · cases hafter
        exact hleft
  · rw [Cursor.atEnd_of_nil hend, Cursor.atEnd_of_nil hend']
    exact .neither
  · -- The longer pattern has no flags before its closing parenthesis, and is refused for that.
    rw [Cursor.atEnd_of_nil hend, Cursor.atEnd_eq_false (Cursor.next?_of_closing hclosing),
      readFlags_of_closing hclosing]
    change Simulates _ _ _ _ _ (if cur'.next? = some ')' then _ else _)
    rw [Cursor.next?_of_closing hclosing]
    exact .neither

theorem simulates_readOpening (h : cur.Embedded tail cur') {c : Char} (hc : cur.next? = some c) :
    Simulates tail (· <:+ closing.tail) cur.rest.tail Opening.erase (readOpening cur)
      (readOpening cur') := by
  have hnow := h.advanceSkipping hc
  have hsuffix := cur.advanceSkipping_suffix
  rw [readOpening, readOpening]
  generalize cur.offset = start, cur'.offset = start'
  generalize cur.advanceSkipping = now at hnow hsuffix ⊢
  generalize cur'.advanceSkipping = now' at hnow ⊢
  -- The marks that tell the openings apart have no parenthesis in them, so a tail completes none.
  obtain ⟨hlook, hlook'⟩ | ⟨after, after', hlook, hlook', -⟩ :=
    hnow.findSome?_after? lookAroundMarks (by decide)
  · rw [hlook, hlook']
    obtain ⟨hname, hname'⟩ | ⟨after, after', hname, hname', hafter, hwithin⟩ :=
      hnow.findSome?_after? nameMarks (by decide)
    · rw [hname, hname']
      obtain ⟨hmark, hmark'⟩ | ⟨after, after', hmark, hmark', hafter, hwithin⟩ :=
        hnow.after? "?" (by decide) (by decide)
      · rw [hmark, hmark']
        exact .both rfl hnow hsuffix
      · rw [hmark, hmark']
        exact (simulates_readFlagOpening hafter start start' _ _).within
          ((hwithin.trans (List.tail_suffix _)).trans hsuffix)
    · rw [hname, hname']
      have hread : Simulates tail (fun _ => False) now.rest id _ _ :=
        (simulates_readGroupName hafter).within (hwithin.trans (List.tail_suffix _))
      dsimp only
      cases hgroup : readGroupName after with
      | error fault =>
        rw [hgroup] at hread
        cases hgroup' : readGroupName after' with
        | error fault' => exact .neither
        | ok last' =>
          rw [hgroup'] at hread
          cases hread with
          | beyond left => exact left.elim
      | ok last =>
        rw [hgroup] at hread
        cases hgroup' : readGroupName after' with
        | error fault' =>
          rw [hgroup'] at hread
          cases hread
        | ok last' =>
          rw [hgroup'] at hread
          cases hread with
          | both value embedded suffix => exact .both rfl embedded (suffix.trans hsuffix)
  · rw [hlook, hlook']
    exact .neither

end CommandShell.Pattern
