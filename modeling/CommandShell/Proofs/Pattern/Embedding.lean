import CommandShell.Proofs.Pattern.Erasure
import Mathlib.Data.List.TakeWhile

/-!
# Patterns within patterns

A pattern may be written within a longer one, as a group of it. While the longer one is read, the
cursor is at the same character of the shorter one (`Cursor.Embedded`), up to the end of this one:
there, either the end of the group is left, or nothing at all because that has been skipped together
with a comment.

So each reader does the same for both (`Simulates`), unless the shorter pattern ends too early. Then
it is refused, and the longer one is either refused too or read beyond the end of the shorter one.
-/

namespace CommandShell.Pattern

/-- What stands behind a pattern that is searched for between word boundaries. -/
def closing : List Char := [')', '\\', 'b']

/-- What may stand behind a pattern: nothing, or the end of the group around it. -/
inductive IsTail : List Char → Prop
  | nothing : IsTail []
  | closing : IsTail closing

/-- The second cursor is where the first one is, but of a longer pattern, in which the tail stands
behind the pattern of the first one. -/
structure Cursor.Embedded (tail : List Char) (cur cur' : Cursor) : Prop where
  isTail : IsTail tail
  /-- What is left is the same up to the tail, which may have been skipped with a comment. -/
  rest : cur'.rest = cur.rest ∨ cur'.rest = cur.rest ++ tail
  extended : cur'.extended = cur.extended
  names : cur'.names.map Prod.fst = cur.names.map Prod.fst

/-- A reader does the same in a longer pattern. The values that are read are compared by what is
left of them by `erase`, and reading goes on within `base`. If the shorter pattern is refused, the
longer one may be read, but then what is left of it is `lost`. -/
inductive Simulates {α β : Type} (tail : List Char) (lost : List Char → Prop) (base : List Char)
    (erase : α → β) :
    Except Fault (α × Cursor) → Except Fault (α × Cursor) → Prop
  | both {a a' : α} {after after' : Cursor} (value : erase a' = erase a)
    (embedded : after.Embedded tail after') (suffix : after.rest <:+ base) :
    Simulates tail lost base erase (.ok (a, after)) (.ok (a', after'))
  | neither {fault fault' : Fault} : Simulates tail lost base erase (.error fault) (.error fault')
  | beyond {fault : Fault} {a' : α} {after' : Cursor} (left : lost after'.rest) :
    Simulates tail lost base erase (.error fault) (.ok (a', after'))

theorem tail_suffix_tail {α : Type} {l l' : List α} (h : l <:+ l') : l.tail <:+ l'.tail := by
  obtain ⟨front, rfl⟩ := h
  cases front with
  | nil => exact List.suffix_rfl
  | cons a front => exact (List.tail_suffix l).trans (List.suffix_append front l)

/-! ## Cursors -/

namespace Cursor

variable {tail : List Char} {cur cur' : Cursor}

@[simp]
theorem rest_advanceBy (cur : Cursor) (n : Nat) : (cur.advanceBy n).rest = cur.rest.drop n := rfl

@[simp]
theorem rest_advance (cur : Cursor) : cur.advance.rest = cur.rest.tail := List.drop_one

theorem rest_eq_cons {c : Char} (h : cur.next? = some c) : cur.rest = c :: cur.rest.tail := by
  obtain ⟨rest, offset, extended, names⟩ := cur
  cases rest with
  | nil => cases h
  | cons d rest => rw [Option.some.inj h, List.tail_cons]

theorem next?_eq_none_iff : cur.next? = none ↔ cur.rest = [] :=
  List.head?_eq_none_iff

theorem next?_of_nil (h : cur.rest = []) : cur.next? = none :=
  next?_eq_none_iff.mpr h

theorem next?_of_closing (h : cur.rest = closing) : cur.next? = some ')' := by
  rw [next?, h]
  rfl

theorem suffix_of_closing (h : cur.rest = closing) : cur.rest <:+ closing :=
  h ▸ List.suffix_rfl

theorem advance_suffix_of_closing (h : cur.rest = closing) :
    cur.advance.rest <:+ closing.tail := by
  have hrest : cur.advance.rest = closing.tail := by rw [rest_advance, h]
  exact hrest ▸ List.suffix_rfl

theorem atEnd_eq_false {c : Char} (h : cur.next? = some c) : cur.atEnd = false := by
  rw [atEnd, rest_eq_cons h]
  rfl

theorem atEnd_of_nil (h : cur.rest = []) : cur.atEnd = true := by
  rw [atEnd, h]
  rfl

/-! ### Blanks -/

theorem withoutBlanks_suffix (comment : Bool) (offset : Nat) (rest : List Char) :
    (withoutBlanks comment offset rest).2 <:+ rest := by
  fun_induction withoutBlanks comment offset rest with
  | case1 => exact List.suffix_rfl
  | case2 offset c rest ih => exact ih.trans (List.suffix_cons c rest)
  | case3 offset c rest hblank ih => exact ih.trans (List.suffix_cons c rest)
  | case4 offset rest hblank ih => exact ih.trans (List.suffix_cons _ rest)
  | case5 => exact List.suffix_rfl

theorem withoutBlanks_offset (comment : Bool) (offset offset' : Nat) (rest : List Char) :
    (withoutBlanks comment offset' rest).2 = (withoutBlanks comment offset rest).2 := by
  induction rest generalizing comment offset offset' with
  | nil => rw [withoutBlanks, withoutBlanks]
  | cons c rest ih =>
    cases comment with
    | true =>
      rw [withoutBlanks, withoutBlanks]
      exact ih _ _ _
    | false =>
      rw [withoutBlanks, withoutBlanks]
      split
      · exact ih _ _ _
      · split
        · exact ih _ _ _
        · rfl

/-- A tail is skipped within a comment only, and then nothing is left. -/
theorem withoutBlanks_append (h : IsTail tail) (comment : Bool) (offset : Nat)
    (rest : List Char) :
    (withoutBlanks comment offset (rest ++ tail)).2 = (withoutBlanks comment offset rest).2 ∨
      (withoutBlanks comment offset (rest ++ tail)).2 =
        (withoutBlanks comment offset rest).2 ++ tail := by
  induction rest generalizing comment offset with
  | nil =>
    rw [List.nil_append]
    cases h with
    | nothing => exact .inl rfl
    | closing =>
      cases comment with
      | true => exact .inl rfl
      | false => exact .inr rfl
  | cons c rest ih =>
    rw [List.cons_append]
    cases comment with
    | true =>
      rw [withoutBlanks, withoutBlanks]
      exact ih _ _
    | false =>
      rw [withoutBlanks, withoutBlanks]
      split
      · exact ih _ _
      · split
        · exact ih _ _
        · exact .inr rfl

theorem skipBlanks_suffix (cur : Cursor) : cur.skipBlanks.rest <:+ cur.rest := by
  rw [skipBlanks]
  split
  · exact withoutBlanks_suffix false cur.offset cur.rest
  · exact List.suffix_rfl

/-- A character that is neither blank nor the beginning of a comment is not skipped. -/
theorem skipBlanks_of_next {c : Char} (h : cur.next? = some c) (hblank : Text.isBlank c = false)
    (hcomment : c ≠ '#') : cur.skipBlanks = cur := by
  rw [skipBlanks, rest_eq_cons h, withoutBlanks, hblank, if_neg Bool.false_ne_true,
    if_neg hcomment, ← rest_eq_cons h]
  exact ite_self cur

theorem advanceSkipping_suffix (cur : Cursor) : cur.advanceSkipping.rest <:+ cur.rest.tail :=
  cur.rest_advance ▸ cur.advance.skipBlanks_suffix

theorem advance_suffix (cur : Cursor) : cur.advance.rest <:+ cur.rest :=
  cur.rest_advance ▸ List.tail_suffix _

theorem advanceSkipping_suffix_rest (cur : Cursor) : cur.advanceSkipping.rest <:+ cur.rest :=
  cur.advanceSkipping_suffix.trans (List.tail_suffix _)

theorem length_advance_lt {c : Char} (h : cur.next? = some c) :
    cur.advance.rest.length < cur.rest.length := by
  rw [rest_advance, rest_eq_cons h]
  exact Nat.lt_succ_self _

/-- What is left behind the next character is less than what is left now. -/
theorem length_lt_of_suffix {c : Char} (h : cur.next? = some c) {after : Cursor}
    (hafter : after.rest <:+ cur.rest.tail) : after.rest.length < cur.rest.length :=
  Nat.lt_of_le_of_lt (cur.rest_advance ▸ hafter.length_le) (length_advance_lt h)

theorem length_advanceSkipping_lt {c : Char} (h : cur.next? = some c) :
    cur.advanceSkipping.rest.length < cur.rest.length :=
  length_lt_of_suffix h cur.advanceSkipping_suffix

theorem advanceWhile_suffix (cur : Cursor) (p : Char → Bool) :
    (cur.advanceWhile p).rest <:+ cur.rest :=
  List.drop_suffix _ _

/-- What is invisible is made of blanks and signs of comments. -/
theorem blank_of_visible?_eq_none {comment : Bool} {rest : List Char}
    (h : visible? comment rest = none) {c : Char} (hc : c ∈ rest) :
    Text.isBlank c = true ∨ c = '#' := by
  induction rest generalizing comment with
  | nil => cases hc
  | cons d rest ih =>
    rw [visible?] at h
    split at h
    · next hblank =>
      rcases List.mem_cons.mp hc with rfl | hc
      · exact .inl hblank
      · exact ih h hc
    · split at h
      · next hcomment =>
        rcases List.mem_cons.mp hc with rfl | hc
        · exact .inr hcomment.1
        · exact ih h hc
      · cases h

theorem visible?_append_closing (comment : Bool) (rest : List Char) :
    visible? comment (rest ++ closing) = (visible? comment rest).or (some ')') := by
  induction rest generalizing comment with
  | nil => cases comment <;> rfl
  | cons c rest ih =>
    rw [List.cons_append, visible?, visible?]
    split
    · exact ih comment
    · split
      · exact ih true
      · rfl

/-! ### Cursors of a longer pattern -/

/-- A text without closing parentheses does not reach into the end of a group. -/
theorem isPrefixOf_append_closing {text : List Char} (h : ')' ∉ text) (rest : List Char) :
    text.isPrefixOf (rest ++ closing) = text.isPrefixOf rest := by
  induction text generalizing rest with
  | nil => cases rest <;> rfl
  | cons c text ih =>
    obtain ⟨hc, htext⟩ := List.ne_and_not_mem_of_not_mem_cons h
    cases rest with
    | nil =>
      change ((c == ')') && _) = false
      rw [beq_eq_false_iff_ne.mpr hc.symm, Bool.false_and]
    | cons d rest =>
      change ((c == d) && text.isPrefixOf (rest ++ closing)) = ((c == d) && text.isPrefixOf rest)
      rw [ih htext]

namespace Embedded

theorem refl (h : IsTail tail) (cur : Cursor) : cur.Embedded tail cur :=
  ⟨h, .inl rfl, rfl, rfl⟩

/-- The next character is the same unless the shorter pattern has ended. -/
theorem next (h : cur.Embedded tail cur') :
    (∃ c, cur.next? = some c ∧ cur'.next? = some c) ∨
      (cur.rest = [] ∧ cur'.rest = []) ∨ (cur.rest = [] ∧ cur'.rest = closing) := by
  have hrest := h.rest
  rw [next?, next?]
  cases hcur : cur.rest with
  | cons c rest =>
    rw [hcur] at hrest
    refine .inl ⟨c, rfl, ?_⟩
    rcases hrest with hrest | hrest <;> rw [hrest] <;> rfl
  | nil =>
    rw [hcur, List.nil_append] at hrest
    rcases hrest with hrest | hrest
    · exact .inr (.inl ⟨rfl, hrest⟩)
    · cases h.isTail with
      | nothing => exact .inr (.inl ⟨rfl, hrest⟩)
      | closing => exact .inr (.inr ⟨rfl, hrest⟩)

theorem next_eq (h : cur.Embedded tail cur') {c : Char} (hc : cur.next? = some c) :
    cur'.next? = some c := by
  obtain ⟨d, hd, hd'⟩ | ⟨hend, -⟩ | ⟨hend, -⟩ := h.next
  · rwa [← hc, hd]
  · rw [next?, hend] at hc
    cases hc
  · rw [next?, hend] at hc
    cases hc

/-- Where the shorter pattern has ended, only the end of a group can follow. -/
theorem eq_of_next_of_end (h : cur.Embedded tail cur') (hend : cur.next? = none) {c : Char}
    (hc : cur'.next? = some c) : c = ')' := by
  obtain ⟨d, hd, -⟩ | ⟨-, hend'⟩ | ⟨-, hclosing⟩ := h.next
  · rw [hend] at hd
    cases hd
  · rw [next?_of_nil hend'] at hc
    cases hc
  · rw [next?_of_closing hclosing] at hc
    exact (Option.some.inj hc).symm

/-- No other character makes a difference. -/
theorem next_eq_iff (h : cur.Embedded tail cur') {c : Char} (hc : c ≠ ')') :
    cur'.next? = some c ↔ cur.next? = some c := by
  refine ⟨fun hnext' => ?_, h.next_eq⟩
  cases hnext : cur.next? with
  | none => exact absurd (h.eq_of_next_of_end hnext hnext') hc
  | some d => rw [← h.next_eq hnext, hnext']

theorem advanceBy (h : cur.Embedded tail cur') {n : Nat} (hn : n ≤ cur.rest.length) :
    (cur.advanceBy n).Embedded tail (cur'.advanceBy n) where
  isTail := h.isTail
  rest := by
    rw [rest_advanceBy, rest_advanceBy]
    rcases h.rest with hrest | hrest
    · exact .inl (by rw [hrest])
    · exact .inr (by rw [hrest, List.drop_append_of_le_length hn])
  extended := h.extended
  names := h.names

theorem advance (h : cur.Embedded tail cur') {c : Char} (hc : cur.next? = some c) :
    cur.advance.Embedded tail cur'.advance := by
  refine h.advanceBy ?_
  rw [rest_eq_cons hc]
  exact Nat.succ_le_succ (Nat.zero_le _)

theorem skipBlanks (h : cur.Embedded tail cur') : cur.skipBlanks.Embedded tail cur'.skipBlanks := by
  rw [Cursor.skipBlanks, Cursor.skipBlanks, h.extended]
  split
  · refine ⟨h.isTail, ?_, rfl, h.names⟩
    rcases h.rest with hrest | hrest
    · exact .inl (by rw [hrest]; exact withoutBlanks_offset ..)
    · have hoffset := withoutBlanks_offset false cur.offset cur'.offset (cur.rest ++ tail)
      rw [← hrest] at hoffset
      have happend := withoutBlanks_append h.isTail false cur.offset cur.rest
      rw [← hrest, ← hoffset] at happend
      exact happend
  · exact h

theorem advanceSkipping (h : cur.Embedded tail cur') {c : Char} (hc : cur.next? = some c) :
    cur.advanceSkipping.Embedded tail cur'.advanceSkipping :=
  (h.advance hc).skipBlanks

/-- Characters of a kind that no tail begins with are the same in both patterns. -/
theorem advanceWhile (h : cur.Embedded tail cur') {p : Char → Bool} (hp : p ')' = false) :
    (cur.advanceWhile p).Embedded tail (cur'.advanceWhile p) := by
  have hlength : (cur'.rest.takeWhile p).length = (cur.rest.takeWhile p).length := by
    rcases h.rest with hrest | hrest
    · rw [hrest]
    · cases h.isTail with
      | nothing => rw [hrest, List.append_nil]
      | closing =>
        have hclosing : closing.takeWhile p = [] := by
          rw [closing, List.takeWhile_cons, hp]
          rfl
        rw [hrest, List.takeWhile_append, hclosing, List.append_nil]
        split
        · next hall => exact hall.symm
        · rfl
  rw [Cursor.advanceWhile, Cursor.advanceWhile, hlength]
  exact h.advanceBy (List.IsPrefix.length_le (List.takeWhile_prefix p))

/-- A text that does not reach into a tail is next in both patterns or in neither. -/
theorem after? (h : cur.Embedded tail cur') (text : String) (hne : text.toList ≠ [])
    (htext : ')' ∉ text.toList) :
    (cur.after? text = none ∧ cur'.after? text = none) ∨
      ∃ after after', cur.after? text = some after ∧ cur'.after? text = some after' ∧
        after.Embedded tail after' ∧ after.rest <:+ cur.rest.tail := by
  have hsame : text.toList.isPrefixOf cur'.rest = text.toList.isPrefixOf cur.rest := by
    rcases h.rest with hrest | hrest
    · rw [hrest]
    · cases h.isTail with
      | nothing => rw [hrest, List.append_nil]
      | closing => rw [hrest, isPrefixOf_append_closing htext]
  rw [Cursor.after?, Cursor.after?, hsame]
  split
  · next hprefix =>
    have hlength : text.length ≤ cur.rest.length := by
      rw [← String.length_toList]
      exact (List.isPrefixOf_iff_prefix.mp hprefix).length_le
    obtain ⟨n, hn⟩ : ∃ n, text.length = n + 1 := by
      rw [← String.length_toList]
      exact ⟨_, (Nat.succ_pred_eq_of_pos (List.length_pos_iff.mpr hne)).symm⟩
    refine .inr ⟨_, _, rfl, rfl, h.advanceBy hlength, ?_⟩
    rw [rest_advanceBy, hn, ← List.drop_tail]
    exact List.drop_suffix _ _
  · exact .inl ⟨rfl, rfl⟩

/-- The same of the first of several texts that is next. -/
theorem findSome?_after? (h : cur.Embedded tail cur') (texts : List String)
    (htexts : ∀ text ∈ texts, text.toList ≠ [] ∧ ')' ∉ text.toList) :
    (texts.findSome? cur.after? = none ∧ texts.findSome? cur'.after? = none) ∨
      ∃ after after', texts.findSome? cur.after? = some after ∧
        texts.findSome? cur'.after? = some after' ∧ after.Embedded tail after' ∧
          after.rest <:+ cur.rest.tail := by
  induction texts with
  | nil => exact .inl ⟨rfl, rfl⟩
  | cons text others ih =>
    rw [List.findSome?_cons, List.findSome?_cons]
    obtain ⟨hnone, hnone'⟩ | ⟨after, after', hsome, hsome', hafter⟩ :=
      h.after? text (htexts text List.mem_cons_self).1 (htexts text List.mem_cons_self).2
    · rw [hnone, hnone']
      exact ih fun other hother => htexts other (List.mem_cons_of_mem _ hother)
    · rw [hsome, hsome']
      exact .inr ⟨after, after', rfl, rfl, hafter⟩

/-- So do other characters, up to one that is none of them. -/
theorem advanceWhile_of_mem (h : cur.Embedded tail cur') {p : Char → Bool} {c : Char}
    (hmem : c ∈ cur.rest) (hc : p c = false) :
    (cur.advanceWhile p).Embedded tail (cur'.advanceWhile p) ∧
      cur'.rest.takeWhile p = cur.rest.takeWhile p := by
  have htake : cur'.rest.takeWhile p = cur.rest.takeWhile p := by
    rcases h.rest with hrest | hrest
    · rw [hrest]
    · have hpart : (cur.rest.takeWhile p).length ≠ cur.rest.length := by
        intro hlength
        have hall := List.takeWhile_eq_self_iff.mp
          ((List.takeWhile_prefix p).eq_of_length hlength) c hmem
        rw [hc] at hall
        cases hall
      rw [hrest, List.takeWhile_append, if_neg hpart]
  refine ⟨?_, htake⟩
  rw [Cursor.advanceWhile, Cursor.advanceWhile, htake]
  exact h.advanceBy (List.takeWhile_prefix p).length_le

/-- A character that is neither blank nor a part of a tail is seen behind the next one in both
patterns or in neither. -/
theorem peek?_eq_iff (h : cur.Embedded tail cur') {c : Char} (hc : cur.next? = some c) {d : Char}
    (hparenthesis : d ≠ ')') (hblank : Text.isBlank d = false) (hcomment : d ≠ '#') :
    cur'.peek? = some d ↔ cur.peek? = some d := by
  have hdrop : cur'.rest.drop 1 = cur.rest.drop 1 ∨
      cur'.rest.drop 1 = cur.rest.drop 1 ++ closing := by
    rcases h.rest with hrest | hrest
    · exact .inl (by rw [hrest])
    · cases h.isTail with
      | nothing => exact .inl (by rw [hrest, List.append_nil])
      | closing =>
        rw [hrest, rest_eq_cons hc]
        exact .inr rfl
  rw [peek?, peek?, h.extended]
  generalize cur.rest.drop 1 = rest at hdrop ⊢
  generalize cur'.rest.drop 1 = rest' at hdrop ⊢
  rcases hdrop with rfl | rfl
  · rfl
  · split
    · rw [visible?_append_closing]
      cases hvisible : visible? false rest with
      | some e => rfl
      | none =>
        -- What is left of the shorter pattern is invisible, and `d` is not.
        have hhead : rest.head? ≠ some d := by
          intro hd
          rcases blank_of_visible?_eq_none hvisible (List.mem_of_mem_head? hd) with hblank' | rfl
          · rw [hblank] at hblank'
            cases hblank'
          · exact hcomment rfl
        simp [hhead, hparenthesis.symm]
    · cases rest with
      | nil => simp [closing, hparenthesis.symm]
      | cons e rest => rfl

end Embedded

end Cursor

/-! ## Characters of a kind -/

/-- Collect characters that satisfy `p`, and pass what is skipped behind each; `fuel` bounds their
number. -/
def readWhile (p : Char → Bool) : (fuel : Nat) → (text : List Char) → Cursor → List Char × Cursor
  | 0, text, cur => (text.reverse, cur)
  | fuel + 1, text, cur =>
    match cur.next? with
    | some c =>
      if p c then readWhile p fuel (c :: text) cur.advanceSkipping
      else (text.reverse, cur)
    | none => (text.reverse, cur)

section ReadWhile

variable {tail : List Char} {cur cur' : Cursor} {p : Char → Bool}

theorem readWhile_of_stop (h : ∀ c, cur.next? = some c → p c = false) (fuel : Nat)
    (text : List Char) : readWhile p fuel text cur = (text.reverse, cur) := by
  cases fuel with
  | zero => rfl
  | succ fuel =>
    rw [readWhile]
    cases hnext : cur.next? with
    | none => rfl
    | some c =>
      dsimp only
      rw [if_neg (Bool.eq_false_iff.mp (h c hnext))]

/-- Where no tail begins with a character of the kind, the same characters are read. -/
theorem readWhile_embedded (h : cur.Embedded tail cur') (hp : p ')' = false) {fuel fuel' : Nat}
    (hfuel : cur.rest.length ≤ fuel) (hfuel' : cur'.rest.length ≤ fuel') (text : List Char) :
    (readWhile p fuel' text cur').1 = (readWhile p fuel text cur).1 ∧
      (readWhile p fuel text cur).2.Embedded tail (readWhile p fuel' text cur').2 ∧
        (readWhile p fuel text cur).2.rest <:+ cur.rest := by
  induction fuel generalizing cur cur' fuel' text with
  | zero =>
    -- The shorter pattern has ended, and no tail begins with a character of the kind.
    have hend := Cursor.next?_of_nil (List.eq_nil_of_length_eq_zero (Nat.le_zero.mp hfuel))
    have hstop (c : Char) (hc : cur'.next? = some c) : p c = false :=
      h.eq_of_next_of_end hend hc ▸ hp
    rw [readWhile_of_stop hstop]
    exact ⟨rfl, h, List.suffix_rfl⟩
  | succ fuel ih =>
    cases hnext : cur.next? with
    | none =>
      have hstop (c : Char) (hc : cur.next? = some c) : p c = false := by
        rw [hnext] at hc
        cases hc
      have hstop' (c : Char) (hc : cur'.next? = some c) : p c = false :=
        h.eq_of_next_of_end hnext hc ▸ hp
      rw [readWhile_of_stop hstop, readWhile_of_stop hstop']
      exact ⟨rfl, h, List.suffix_rfl⟩
    | some c =>
      have hlength := Cursor.length_advanceSkipping_lt hnext
      have hlength' := Cursor.length_advanceSkipping_lt (h.next_eq hnext)
      obtain ⟨fuel', rfl⟩ : ∃ n, fuel' = n + 1 := ⟨fuel' - 1, by omega⟩
      have hrest' : cur'.advanceSkipping.rest.length ≤ fuel' := by omega
      rw [readWhile, readWhile, hnext, h.next_eq hnext]
      dsimp only
      split
      · obtain ⟨htext, hlast, hwithin⟩ :=
          ih (h.advanceSkipping hnext) (by omega) hrest' (c :: text)
        exact ⟨htext, hlast, hwithin.trans cur.advanceSkipping_suffix_rest⟩
      · exact ⟨rfl, h, List.suffix_rfl⟩

end ReadWhile

/-! ## Readers -/

theorem exists_of_bind_eq_ok {α β : Type} {first : Except Fault α} {next : α → Except Fault β}
    {b : β} (h : first >>= next = .ok b) : ∃ a, first = .ok a ∧ next a = .ok b := by
  cases first with
  | error fault => cases h
  | ok a => exact ⟨a, rfl, h⟩

/-- Two results that are the same without places, or both refused. -/
theorem ok_or_error_of_toOption {α β : Type} {erase : α → β} {result result' : Except Fault α}
    (h : result'.toOption.map erase = result.toOption.map erase) :
    (∃ a a', result = .ok a ∧ result' = .ok a' ∧ erase a' = erase a) ∨
      ∃ fault fault', result = .error fault ∧ result' = .error fault' := by
  cases result with
  | ok a =>
    cases result' with
    | ok a' => exact .inl ⟨a, a', rfl, rfl, Option.some.inj h⟩
    | error fault => cases h
  | error fault =>
    cases result' with
    | ok a' => cases h
    | error fault' => exact .inr ⟨fault, fault', rfl, rfl⟩

namespace Simulates

variable {α β γ δ : Type} {tail base : List Char} {lost : List Char → Prop}
variable {erase : α → β} {erase' : γ → δ}
variable {result result' : Except Fault (α × Cursor)}

/-- What is read within a part of a text is read within the text. -/
theorem within (h : Simulates tail lost base erase result result') {base' : List Char}
    (hbase : base <:+ base') : Simulates tail lost base' erase result result' := by
  cases h with
  | both value embedded suffix => exact .both value embedded (suffix.trans hbase)
  | neither => exact .neither
  | beyond left => exact .beyond left

/-- Where the shorter pattern is refused, it is enough to know what is left of the longer one. -/
theorem of_error {fault : Fault} (h : ∀ a after, result' = .ok (a, after) → lost after.rest) :
    Simulates tail lost base erase (.error fault) result' := by
  cases result' with
  | error fault' => exact .neither
  | ok read => exact .beyond (h read.1 read.2 rfl)

/-- A reader goes on within the text that it is given. -/
theorem suffix_of_ok (h : Simulates tail lost base erase result result') {a : α} {after : Cursor}
    (hresult : result = .ok (a, after)) : after.rest <:+ base := by
  subst hresult
  cases h with
  | both value embedded suffix => exact suffix

/-- A value may be put into another one. -/
theorem map (h : Simulates tail lost base erase result result') {f f' : α → γ}
    (hf : ∀ a a', erase a' = erase a → erase' (f' a') = erase' (f a)) :
    Simulates tail lost base erase' (result.map fun (a, after) => (f a, after))
      (result'.map fun (a, after) => (f' a, after)) := by
  cases h with
  | both value embedded suffix => exact .both (hf _ _ value) embedded suffix
  | neither => exact .neither
  | beyond left => exact .beyond left

/-- One reader after the other. Beyond the end of the shorter pattern it is enough that the second
one goes on within what is left. -/
theorem bind {base' : List Char} {lost' : List Char → Prop}
    (h : Simulates tail lost base erase result result')
    {next next' : α × Cursor → Except Fault (γ × Cursor)}
    (hnext : ∀ a a' after after', result = .ok (a, after) → result' = .ok (a', after') →
      erase a' = erase a → after.Embedded tail after' → after.rest <:+ base →
        Simulates tail lost' base' erase' (next (a, after)) (next' (a', after')))
    (hbeyond : ∀ a' after' c last', lost after'.rest → next' (a', after') = .ok (c, last') →
      lost' last'.rest) :
    Simulates tail lost' base' erase' (result >>= next) (result' >>= next') := by
  cases h with
  | both value embedded suffix => exact hnext _ _ _ _ rfl rfl value embedded suffix
  | neither => exact .neither
  | beyond left => exact .of_error fun c last' hlast => hbeyond _ _ c last' left hlast

/-- The same where the first reader never reads beyond the end of the shorter pattern. -/
theorem bind_of_never {base' : List Char} {lost' : List Char → Prop}
    (h : Simulates tail (fun _ => False) base erase result result')
    {next next' : α × Cursor → Except Fault (γ × Cursor)}
    (hnext : ∀ a a' after after', result = .ok (a, after) → result' = .ok (a', after') →
      erase a' = erase a → after.Embedded tail after' → after.rest <:+ base →
        Simulates tail lost' base' erase' (next (a, after)) (next' (a', after'))) :
    Simulates tail lost' base' erase' (result >>= next) (result' >>= next') :=
  h.bind hnext fun _ _ _ _ hlost => hlost.elim

end Simulates

end CommandShell.Pattern
