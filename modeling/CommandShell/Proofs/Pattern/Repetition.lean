import CommandShell.Pattern.Reader
import CommandShell.Proofs.Pattern.Embedding

/-!
# Repetitions within longer patterns

A repetition is read alike in a pattern and in a longer one around it (`simulates_readRepetition`).
Where the shorter pattern ends among the counts, so does the longer one, since there is no closing
brace in the end of a group.
-/

namespace CommandShell.Pattern

variable {tail : List Char} {lost : List Char → Prop} {cur cur' : Cursor}

/-! ## Counts -/

theorem readDigits_eq_readWhile (fuel : Nat) (digits : List Char) (cur : Cursor) :
    readDigits fuel digits cur = readWhile Char.isDigit fuel digits cur := by
  induction fuel generalizing digits cur with
  | zero => rfl
  | succ fuel ih =>
    rw [readDigits, readWhile]
    cases cur.next? with
    | none => rfl
    | some c =>
      dsimp only
      rw [ih]

/-- Two outcomes are the same number, or both refused. -/
theorem eq_or_errors_of_toOption {outcome outcome' : Except Fault Nat}
    (h : outcome'.toOption = outcome.toOption) :
    (∃ n, outcome = .ok n ∧ outcome' = .ok n) ∨
      ∃ fault fault', outcome = .error fault ∧ outcome' = .error fault' := by
  refine (ok_or_error_of_toOption (congrArg (Option.map id) h)).imp_left ?_
  rintro ⟨n, n', hn, hn', rfl⟩
  exact ⟨n', hn, hn'⟩

theorem readCount_embedded (h : cur.Embedded tail cur') :
    let read := readCount cur
    let read' := readCount cur'
    read'.1.toOption = read.1.toOption ∧ read.2.Embedded tail read'.2 ∧
      read.2.rest <:+ cur.rest := by
  have hfirst := h.advanceWhile (p := Text.isBlank) (by decide)
  have hsuffix := cur.advanceWhile_suffix Text.isBlank
  rw [readCount, readCount]
  generalize cur.advanceWhile Text.isBlank = first at hfirst hsuffix ⊢
  generalize cur'.advanceWhile Text.isBlank = first' at hfirst ⊢
  rw [readDigits_eq_readWhile, readDigits_eq_readWhile]
  obtain ⟨hdigits, hlast, hwithin⟩ :=
    readWhile_embedded (p := Char.isDigit) hfirst rfl (Nat.le_refl _) (Nat.le_refl _) []
  generalize readWhile Char.isDigit first.rest.length [] first = read at hdigits hlast hwithin ⊢
  generalize readWhile Char.isDigit first'.rest.length [] first' = read' at hdigits hlast ⊢
  obtain ⟨digits, last⟩ := read
  obtain ⟨digits', last'⟩ := read'
  obtain rfl : digits' = digits := hdigits
  have hafter := (hlast.advanceWhile (p := Text.isBlank) (by decide)).skipBlanks
  have hleft : (last.advanceWhile Text.isBlank).skipBlanks.rest <:+ cur.rest :=
    (((Cursor.skipBlanks_suffix _).trans (last.advanceWhile_suffix _)).trans hwithin).trans hsuffix
  dsimp only
  cases hnumber : Text.readUnsigned countLimit digits' with
  | ok n => exact ⟨rfl, hafter, hleft⟩
  | error cause => cases cause <;> exact ⟨rfl, hafter, hleft⟩

theorem readCount_suffix (cur : Cursor) : (readCount cur).2.rest <:+ cur.rest :=
  (readCount_embedded (.refl .nothing cur)).2.2

/-- What stands behind the comma of a counted repetition: a second number, or the closing brace. -/
def countsAfterComma (start : Nat) (least : Except Fault Nat) (second : Cursor) :
    Except Fault ((Nat × Option Nat) × Cursor) :=
  match second.next? with
  | none => second.failSince start .countUnclosed
  | some '\x7d' => do return ((← least, none), second)
  | some _ => do
    let least ← least
    let (most, last) := readCount second
    return ((least, some (← most)), last)

theorem simulates_countsAfterComma (h : cur.Embedded tail cur') (start start' : Nat)
    {least least' : Except Fault Nat} (hleast : least'.toOption = least.toOption) :
    Simulates tail (· <:+ closing) cur.rest id (countsAfterComma start least cur)
      (countsAfterComma start' least' cur') := by
  obtain ⟨hmost, hlast, hsuffix⟩ := readCount_embedded h
  have hsuffix' := readCount_suffix cur'
  rw [countsAfterComma, countsAfterComma]
  generalize readCount cur = read at hmost hlast hsuffix ⊢
  generalize readCount cur' = read' at hmost hlast hsuffix' ⊢
  obtain ⟨most, last⟩ := read
  obtain ⟨most', last'⟩ := read'
  dsimp only at hmost hlast hsuffix hsuffix' ⊢
  obtain ⟨c, hc, hc'⟩ | ⟨hend, hend'⟩ | ⟨hend, hclosing⟩ := h.next
  · rw [hc, hc']
    rcases eq_or_errors_of_toOption hleast with ⟨n, rfl, rfl⟩ | ⟨fault, fault', rfl, rfl⟩
    · split
      · next heq => cases heq
      · exact .both rfl h List.suffix_rfl
      · rcases eq_or_errors_of_toOption hmost with ⟨m, rfl, rfl⟩ | ⟨fault, fault', rfl, rfl⟩
        · exact .both rfl hlast hsuffix
        · exact .neither
    · split
      · next heq => cases heq
      · exact .neither
      · exact .neither
  · rw [Cursor.next?_of_nil hend, Cursor.next?_of_nil hend']
    exact .neither
  · -- Whatever the longer pattern reads here, it stays within the tail.
    rw [Cursor.next?_of_nil hend, Cursor.next?_of_closing hclosing]
    refine .of_error fun counts after hcounts => ?_
    obtain ⟨count, -, hcounts⟩ := exists_of_bind_eq_ok hcounts
    obtain ⟨most, -, hcounts⟩ := exists_of_bind_eq_ok hcounts
    cases hcounts
    exact hsuffix'.trans (Cursor.suffix_of_closing hclosing)

theorem simulates_readCounts (h : cur.Embedded tail cur') (start start' : Nat) :
    Simulates tail (· <:+ closing) cur.rest id (readCounts start cur) (readCounts start' cur') := by
  obtain ⟨hleast, hafter, hsuffix⟩ := readCount_embedded h
  rw [readCounts, readCounts]
  generalize readCount cur = read at hleast hafter hsuffix ⊢
  generalize readCount cur' = read' at hleast hafter ⊢
  obtain ⟨least, after⟩ := read
  obtain ⟨least', after'⟩ := read'
  dsimp only at hleast hafter hsuffix ⊢
  obtain ⟨c, hc, hc'⟩ | ⟨hend, hend'⟩ | ⟨hend, hclosing⟩ := hafter.next
  · rw [hc, hc']
    split
    · next heq => cases heq
    · -- Behind the comma, there is a second number, or the closing brace.
      have hsecond := hafter.advanceSkipping hc
      have hwithin := after.advanceSkipping_suffix_rest.trans hsuffix
      generalize after.advanceSkipping = second at hsecond hwithin ⊢
      generalize after'.advanceSkipping = second' at hsecond ⊢
      exact (simulates_countsAfterComma hsecond start start' hleast).within hwithin
    · rcases eq_or_errors_of_toOption hleast with ⟨n, rfl, rfl⟩ | ⟨fault, fault', rfl, rfl⟩
      · exact .both rfl hafter hsuffix
      · exact .neither
  · rw [Cursor.next?_of_nil hend, Cursor.next?_of_nil hend']
    exact .neither
  · rw [Cursor.next?_of_nil hend, Cursor.next?_of_closing hclosing]
    refine .of_error fun counts last hcounts => ?_
    obtain ⟨count, -, hcounts⟩ := exists_of_bind_eq_ok hcounts
    cases hcounts
    exact Cursor.suffix_of_closing hclosing

/-! ## Repetitions -/

theorem skipReluctance_embedded (h : cur.Embedded tail cur') :
    (skipReluctance cur).Embedded tail (skipReluctance cur') ∧
      (skipReluctance cur).rest <:+ cur.rest := by
  have hsign := h.next_eq_iff (c := '?') (by decide)
  rw [skipReluctance, skipReluctance]
  simp only [hsign]
  split
  · next hnext => exact ⟨h.advance hnext, cur.advance_suffix⟩
  · exact ⟨h, List.suffix_rfl⟩

/-- There are no braces in the end of a group. -/
theorem next?_ne_brace_of_suffix {last : Cursor} (h : last.rest <:+ closing) :
    last.next? ≠ some '\x7d' := by
  intro hnext
  exact absurd (h.subset (Cursor.rest_eq_cons hnext ▸ List.mem_cons_self)) (by decide)

/-- Behind the end of the shorter pattern, there are no counts. -/
theorem readCounted_of_closing (h : cur.advanceSkipping.rest = closing) (body : Node) :
    ∃ fault, readCounted body cur = .error fault := by
  cases hread : readCounted body cur with
  | error fault => exact ⟨fault, rfl⟩
  | ok read =>
    rw [readCounted, Cursor.atEnd_eq_false (Cursor.next?_of_closing h)] at hread
    obtain ⟨⟨⟨least, most⟩, last⟩, hcounts, hread⟩ := exists_of_bind_eq_ok hread
    have hlast := (simulates_readCounts (.refl .nothing cur.advanceSkipping) cur.offset
      cur.offset).suffix_of_ok hcounts
    dsimp only at hread
    rw [if_pos (next?_ne_brace_of_suffix (hlast.trans (Cursor.suffix_of_closing h)))] at hread
    cases hread

theorem simulates_readCounted (h : cur.Embedded tail cur') {c : Char} (hc : cur.next? = some c)
    {body body' : Node} (hbody : body'.erase = body.erase) :
    Simulates tail lost cur.rest.tail Node.erase (readCounted body cur)
      (readCounted body' cur') := by
  have hfirst := h.advanceSkipping hc
  have hsuffix := cur.advanceSkipping_suffix
  obtain ⟨d, hd, hd'⟩ | ⟨hend, hend'⟩ | ⟨hend, hclosing⟩ := hfirst.next
  · rw [readCounted, readCounted, Cursor.atEnd_eq_false hd, Cursor.atEnd_eq_false hd',
      if_neg Bool.false_ne_true, if_neg Bool.false_ne_true]
    refine (simulates_readCounts hfirst _ _).bind ?_ ?_
    · intro counts counts' last last' _ _ hcounts hlast hwithin
      obtain rfl : counts' = counts := hcounts
      obtain ⟨least, most⟩ := counts'
      dsimp only
      by_cases hbrace : last.next? = some '\x7d'
      · have hbrace' := hlast.next_eq hbrace
        obtain ⟨hafter, hleft⟩ := skipReluctance_embedded (hlast.advanceSkipping hbrace)
        rw [if_neg (not_not.mpr hbrace), if_neg (not_not.mpr hbrace')]
        split
        · exact .neither
        · have hrest := (hleft.trans last.advanceSkipping_suffix_rest).trans hwithin
          refine .both ?_ hafter (hrest.trans hsuffix)
          rw [Node.erase, Node.erase, hbody]
      · rw [if_pos hbrace, if_pos (mt (hlast.next_eq_iff (by decide)).mp hbrace)]
        exact .neither
    · -- Counts that end in the tail are not closed, since there is no brace in it.
      intro counts last node after hlost hlast
      obtain ⟨least, most⟩ := counts
      dsimp only at hlast
      rw [if_pos (next?_ne_brace_of_suffix hlost)] at hlast
      cases hlast
  · rw [readCounted, readCounted, Cursor.atEnd_of_nil hend, Cursor.atEnd_of_nil hend']
    exact .neither
  · obtain ⟨fault', hfault'⟩ := readCounted_of_closing hclosing body'
    rw [readCounted, Cursor.atEnd_of_nil hend, hfault']
    exact .neither

theorem simulates_readRepetition (h : cur.Embedded tail cur') {c : Char}
    (hc : cur.next? = some c) {body body' : Node} (hbody : body'.erase = body.erase) :
    Simulates tail lost cur.rest.tail Node.erase (readRepetition c body cur)
      (readRepetition c body' cur') := by
  rw [readRepetition, readRepetition]
  cases repetitionSign? c with
  | none => exact simulates_readCounted h hc hbody
  | some counts =>
    obtain ⟨hafter, hsuffix⟩ := skipReluctance_embedded (h.advance hc)
    refine .both ?_ hafter (cur.rest_advance ▸ hsuffix)
    rw [Node.erase, Node.erase, hbody]

end CommandShell.Pattern
