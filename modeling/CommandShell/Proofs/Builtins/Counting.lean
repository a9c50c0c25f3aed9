import CommandShell.Builtins.Wc
import Mathlib.Data.Finset.Prod
import Mathlib.Data.List.Induction
import Mathlib.Data.Nat.Find

/-!
# What is counted

The lines of an input are its newlines, and its words are the longest runs of bytes that are not
blank (`IsWordAt`, `wordsIn`). Counting byte by byte finds as many of them, although it only
remembers whether the last byte belonged to a word; so the counts depend on the bytes and not on the
attempts by which they arrive (`ofReads_eq_countsIn`).

Two inputs one behind the other have the lines, words and bytes of both, except that a word which
ends the one and a word which begins the other are a single word.
-/

namespace CommandShell.Wc

/-! ## Words -/

/-- At this place there is a byte that is not blank. -/
def isVisibleAt (data : Bytes) (i : Nat) : Bool :=
  data[i]?.any fun b => !Text.isBlankByte b

/-- The bytes from `first` on and before `stop` are a word: none of them is blank, and the word
reaches as far as it can on both sides. -/
structure IsWordAt (data : Bytes) (first stop : Nat) : Prop where
  /-- There is a byte in it. -/
  lt : first < stop
  /-- No byte in it is blank. -/
  inside : ∀ i, first ≤ i → i < stop → isVisibleAt data i = true
  /-- It does not go on before. -/
  before : first = 0 ∨ isVisibleAt data (first - 1) = false
  /-- It does not go on behind. -/
  behind : isVisibleAt data stop = false

instance (data : Bytes) (first stop : Nat) : Decidable (IsWordAt data first stop) :=
  decidable_of_iff
    (first < stop ∧ (∀ i, first ≤ i → i < stop → isVisibleAt data i = true) ∧
      (first = 0 ∨ isVisibleAt data (first - 1) = false) ∧ isVisibleAt data stop = false)
    ⟨fun ⟨hlt, hinside, hbefore, hbehind⟩ => ⟨hlt, hinside, hbefore, hbehind⟩,
      fun h => ⟨h.lt, h.inside, h.before, h.behind⟩⟩

/-- The words of some bytes, by the places where they begin and end. -/
def wordsIn (data : Bytes) : Finset (Nat × Nat) :=
  {word ∈ Finset.range data.length ×ˢ Finset.range (data.length + 1) |
    IsWordAt data word.1 word.2}

/-- What there is to be counted in some bytes: the newlines, the words and the bytes. -/
def countsIn (data : Bytes) : Counts :=
  ⟨data.count Input.newline, (wordsIn data).card, data.length⟩

example : countsIn (utf8 " ab\tc\n") = ⟨1, 2, 6⟩ := by decide

theorem isVisibleAt_cons_zero (b : UInt8) (data : Bytes) :
    isVisibleAt (b :: data) 0 = !Text.isBlankByte b := rfl

theorem isVisibleAt_cons_succ (b : UInt8) (data : Bytes) (i : Nat) :
    isVisibleAt (b :: data) (i + 1) = isVisibleAt data i := rfl

/-- Only where there are bytes, one can be visible. -/
theorem lt_length_of_isVisibleAt {data : Bytes} {i : Nat} (h : isVisibleAt data i = true) :
    i < data.length := by
  by_contra hlength
  rw [isVisibleAt, List.getElem?_eq_none (Nat.le_of_not_lt hlength)] at h
  cases h

namespace IsWordAt

variable {data : Bytes} {first stop : Nat}

theorem stop_le (h : IsWordAt data first stop) : stop ≤ data.length := by
  have hlt := h.lt
  have hlast := lt_length_of_isVisibleAt (h.inside (stop - 1) (by omega) (by omega))
  omega

/-- Where a word begins, there is no other one. -/
theorem stop_unique {stop' : Nat} (h : IsWordAt data first stop)
    (h' : IsWordAt data first stop') : stop = stop' := by
  -- The byte behind the shorter one would be inside the longer one.
  rcases Nat.lt_trichotomy stop stop' with hlt | heq | hgt
  · have hinside := h'.inside stop (Nat.le_of_lt h.lt) hlt
    rw [h.behind] at hinside
    cases hinside
  · exact heq
  · have hinside := h.inside stop' (Nat.le_of_lt h'.lt) hgt
    rw [h'.behind] at hinside
    cases hinside

end IsWordAt

@[simp]
theorem mem_wordsIn {data : Bytes} {word : Nat × Nat} :
    word ∈ wordsIn data ↔ IsWordAt data word.1 word.2 := by
  rw [wordsIn, Finset.mem_filter, Finset.mem_product, Finset.mem_range, Finset.mem_range]
  refine and_iff_right_of_imp fun h => ?_
  have hlt := h.lt
  have hle := h.stop_le
  constructor <;> omega

/-- Where a visible byte has nothing before it, a word begins. -/
theorem exists_isWordAt_zero {data : Bytes} (h : isVisibleAt data 0 = true) :
    ∃ stop, IsWordAt data 0 stop := by
  have hend : ∃ i, isVisibleAt data i = false :=
    ⟨data.length, by
      by_contra hvisible
      exact Nat.lt_irrefl _ (lt_length_of_isVisibleAt (by simpa using hvisible))⟩
  -- The word ends at the first place that is not visible.
  refine ⟨Nat.find hend, ?_, fun i _ hi => ?_, .inl rfl, Nat.find_spec hend⟩
  · rw [Nat.find_pos, h]
    decide
  · simpa using Nat.find_min hend hi

/-- Behind one more byte there are the words that there were, except for one at the beginning if
that byte belongs to it. -/
theorem isWordAt_cons_succ (b : UInt8) (data : Bytes) (first stop : Nat) :
    IsWordAt (b :: data) (first + 1) (stop + 1) ↔
      IsWordAt data first stop ∧ (Text.isBlankByte b = true ∨ first ≠ 0) := by
  have hinside : (∀ i, first + 1 ≤ i → i < stop + 1 → isVisibleAt (b :: data) i = true) ↔
      ∀ i, first ≤ i → i < stop → isVisibleAt data i = true := by
    constructor
    · intro h i hfirst hstop
      exact h (i + 1) (Nat.succ_le_succ hfirst) (Nat.succ_lt_succ hstop)
    · intro h i hfirst hstop
      obtain ⟨i, rfl⟩ : ∃ j, i = j + 1 := ⟨i - 1, by omega⟩
      exact h i (by omega) (by omega)
  have hbefore : isVisibleAt (b :: data) first = false ↔
      (first = 0 ∨ isVisibleAt data (first - 1) = false) ∧
        (Text.isBlankByte b = true ∨ first ≠ 0) := by
    cases first with
    | zero => simp [isVisibleAt_cons_zero]
    | succ first => simp [isVisibleAt_cons_succ]
  constructor
  · rintro ⟨hlt, h, hback | hback, hbehind⟩
    · cases hback
    · obtain ⟨hback, hapart⟩ := hbefore.mp hback
      exact ⟨⟨Nat.lt_of_succ_lt_succ hlt, hinside.mp h, hback, hbehind⟩, hapart⟩
  · rintro ⟨⟨hlt, h, hback, hbehind⟩, hapart⟩
    exact ⟨Nat.succ_lt_succ hlt, hinside.mpr h, .inr (hbefore.mpr ⟨hback, hapart⟩), hbehind⟩

/-! ## Words behind other bytes -/

/-- The words of some bytes that come behind others: if these end `inWord`, a word at the beginning
is none of its own. -/
def wordsBehind (inWord : Bool) (data : Bytes) : Finset (Nat × Nat) :=
  {word ∈ wordsIn data | inWord = true → word.1 ≠ 0}

theorem wordsBehind_false (data : Bytes) : wordsBehind false data = wordsIn data :=
  Finset.filter_true_of_mem fun _ _ hfalse => by cases hfalse

/-- A word one place further on. -/
def further : Nat × Nat ↪ Nat × Nat where
  toFun word := (word.1 + 1, word.2 + 1)
  inj' := by
    rintro ⟨first, stop⟩ ⟨first', stop'⟩ h
    simpa using h

theorem mem_map_further {words : Finset (Nat × Nat)} {first stop : Nat} :
    (first, stop) ∈ words.map further ↔
      ∃ first' stop', first = first' + 1 ∧ stop = stop' + 1 ∧ (first', stop') ∈ words := by
  rw [Finset.mem_map]
  constructor
  · rintro ⟨⟨first', stop'⟩, hmem, heq⟩
    obtain ⟨rfl, rfl⟩ := Prod.mk.inj heq
    exact ⟨first', stop', rfl, rfl, hmem⟩
  · rintro ⟨first', stop', rfl, rfl, hmem⟩
    exact ⟨(first', stop'), hmem, rfl⟩

/-- The words that begin behind the first byte are words of the bytes behind it. -/
theorem mem_wordsBehind_cons_succ (inWord : Bool) (b : UInt8) (data : Bytes) (first stop : Nat) :
    (first + 1, stop) ∈ wordsBehind inWord (b :: data) ↔
      (first + 1, stop) ∈ (wordsBehind (!Text.isBlankByte b) data).map further := by
  simp only [mem_map_further, wordsBehind, Finset.mem_filter, mem_wordsIn]
  constructor
  · rintro ⟨hword, -⟩
    obtain ⟨stop, rfl⟩ : ∃ stop', stop = stop' + 1 := ⟨stop - 1, by have := hword.lt; omega⟩
    obtain ⟨hword, hapart⟩ := (isWordAt_cons_succ b data first stop).mp hword
    refine ⟨first, stop, rfl, rfl, hword, fun hvisible => ?_⟩
    exact hapart.resolve_left (by simpa using hvisible)
  · rintro ⟨first', stop', hfirst, rfl, hword, hapart⟩
    obtain rfl := Nat.succ.inj hfirst
    refine ⟨(isWordAt_cons_succ b data first stop').mpr ⟨hword, ?_⟩, fun _ => Nat.succ_ne_zero _⟩
    cases hblank : Text.isBlankByte b with
    | true => exact .inl rfl
    | false => exact .inr (hapart (by rw [hblank]; rfl))

theorem zero_notMem_map_further (words : Finset (Nat × Nat)) (stop : Nat) :
    (0, stop) ∉ words.map further := by
  rw [mem_map_further]
  rintro ⟨first, -, hfirst, -⟩
  cases hfirst

/-- A visible byte with no word before it begins a word. -/
theorem wordsBehind_cons_of_begins {b : UInt8} (hb : Text.isBlankByte b = false) (data : Bytes) :
    ∃ stop, wordsBehind false (b :: data) =
      insert (0, stop) ((wordsBehind (!Text.isBlankByte b) data).map further) := by
  have hvisible : isVisibleAt (b :: data) 0 = true := by rw [isVisibleAt_cons_zero, hb]; rfl
  obtain ⟨stop, hstop⟩ := exists_isWordAt_zero hvisible
  refine ⟨stop, ?_⟩
  ext ⟨first, stop'⟩
  rw [Finset.mem_insert]
  -- All words but the new one begin behind the first byte.
  cases first with
  | succ first =>
    rw [mem_wordsBehind_cons_succ]
    simp
  | zero =>
    rw [or_iff_left (zero_notMem_map_further _ _), wordsBehind_false, mem_wordsIn]
    constructor
    · intro hword
      rw [hstop.stop_unique hword]
    · intro heq
      rw [heq]
      exact hstop

/-- At a blank byte, or within a word, no word begins. -/
theorem wordsBehind_cons_of_not_begins {inWord : Bool} {b : UInt8}
    (h : Text.isBlankByte b = true ∨ inWord = true) (data : Bytes) :
    wordsBehind inWord (b :: data) =
      (wordsBehind (!Text.isBlankByte b) data).map further := by
  ext ⟨first, stop⟩
  cases first with
  | succ first => exact mem_wordsBehind_cons_succ inWord b data first stop
  | zero =>
    refine iff_of_false (fun hmem => ?_) (zero_notMem_map_further _ _)
    rw [wordsBehind, Finset.mem_filter, mem_wordsIn] at hmem
    obtain ⟨hword, hapart⟩ := hmem
    rcases h with hblank | hinWord
    · have hvisible := hword.inside 0 (Nat.le_refl 0) hword.lt
      rw [isVisibleAt_cons_zero, hblank] at hvisible
      cases hvisible
    · exact hapart hinWord rfl

/-- One more byte in front is one more word exactly if it is visible and no word stands before
it. -/
theorem card_wordsBehind_cons (inWord : Bool) (b : UInt8) (data : Bytes) :
    (wordsBehind inWord (b :: data)).card =
      (wordsBehind (!Text.isBlankByte b) data).card +
        if !Text.isBlankByte b && !inWord then 1 else 0 := by
  by_cases hbegins : Text.isBlankByte b = true ∨ inWord = true
  · have hnot : (!Text.isBlankByte b && !inWord) = false := by
      rcases hbegins with h | h <;> simp [h]
    rw [wordsBehind_cons_of_not_begins hbegins, Finset.card_map, hnot]
    rfl
  · obtain ⟨hvisible, hinWord⟩ := not_or.mp hbegins
    rw [Bool.not_eq_true] at hvisible hinWord
    obtain ⟨stop, hwords⟩ := wordsBehind_cons_of_begins hvisible data
    rw [hinWord, hwords, Finset.card_insert_of_notMem (zero_notMem_map_further _ _),
      Finset.card_map, hvisible]
    rfl

/-- There are no more words than bytes. -/
theorem card_wordsBehind_le (inWord : Bool) (data : Bytes) :
    (wordsBehind inWord data).card ≤ data.length := by
  induction data generalizing inWord with
  | nil => exact Nat.le_refl 0
  | cons b data ih =>
    have hrest := ih (!Text.isBlankByte b)
    rw [card_wordsBehind_cons, List.length_cons]
    split <;> omega

/-- Neither lines nor words are more than the bytes. -/
theorem countsIn_le (data : Bytes) :
    (countsIn data).lines ≤ data.length ∧ (countsIn data).words ≤ data.length := by
  refine ⟨List.count_le_length, ?_⟩
  rw [countsIn, ← wordsBehind_false]
  exact card_wordsBehind_le false data

/-! ## Counting byte by byte -/

/-- The bytes end with one that is not blank. -/
def endsInWord (data : Bytes) : Bool :=
  data.getLast?.any fun b => !Text.isBlankByte b

/-- The bytes begin with one that is not blank. -/
def beginsInWord (data : Bytes) : Bool :=
  data.head?.any fun b => !Text.isBlankByte b

/-- To count on over more bytes adds what there is to be counted in them, where a word that has
begun already does not count again. -/
theorem counts_foldl_step (tally : Tally) (data : Bytes) :
    (data.foldl Tally.step tally).counts =
      tally.counts.add
        ⟨data.count Input.newline, (wordsBehind tally.inWord data).card, data.length⟩ := by
  -- Each byte makes another tally, which tells whether the next byte begins a word.
  induction data generalizing tally with
  | nil => rfl
  | cons b data ih =>
    rw [List.foldl_cons, ih, card_wordsBehind_cons, List.count_cons, List.length_cons]
    simp only [Tally.step, Counts.add, Counts.mk.injEq]
    refine ⟨?_, ?_, by omega⟩
    · split <;> omega
    · split <;> omega

/-- The counts of some bytes are what there is to be counted in them. -/
theorem counts_ofBytes (data : Bytes) : Counts.ofBytes data = countsIn data := by
  rw [Counts.ofBytes, counts_foldl_step, countsIn, ← wordsBehind_false]
  simp [Tally.start, Counts.add, Counts.zero]

/-- Counting remembers whether the last byte belongs to a word. -/
theorem inWord_foldl_step (data : Bytes) :
    (data.foldl Tally.step .start).inWord = endsInWord data := by
  induction data using List.reverseRecOn with
  | nil => rfl
  | append_singleton data b _ =>
    rw [List.foldl_append, endsInWord, List.getLast?_concat]
    rfl

/-- A word that goes on from before is not one of the words of what comes behind. -/
theorem card_wordsBehind_add (inWord : Bool) (data : Bytes) :
    (wordsBehind inWord data).card + (if inWord && beginsInWord data then 1 else 0) =
      (wordsIn data).card := by
  rw [← wordsBehind_false]
  cases data with
  | nil => cases inWord <;> rfl
  | cons b data =>
    -- Only the first byte can tell whether a word goes on.
    rw [card_wordsBehind_cons, card_wordsBehind_cons]
    change _ + (if inWord && !Text.isBlankByte b then 1 else 0) = _
    cases inWord <;> cases Text.isBlankByte b <;> rfl

/-- Two inputs one behind the other have the lines, words and bytes of both, but a word that goes on
from the one to the other is a single one. -/
theorem countsIn_append (first second : Bytes) :
    (countsIn (first ++ second)).add
        ⟨0, if endsInWord first && beginsInWord second then 1 else 0, 0⟩ =
      (countsIn first).add (countsIn second) := by
  -- The words of the second are counted as coming behind the first.
  have hcounts : countsIn (first ++ second) = (countsIn first).add
      ⟨second.count Input.newline, (wordsBehind (endsInWord first) second).card,
        second.length⟩ := by
    rw [← counts_ofBytes, ← counts_ofBytes, Counts.ofBytes, List.foldl_append, counts_foldl_step,
      inWord_foldl_step]
    rfl
  have hwords := card_wordsBehind_add (endsInWord first) second
  rw [hcounts, countsIn, countsIn]
  simp only [Counts.add, Counts.mk.injEq]
  exact ⟨rfl, by omega, rfl⟩

/-- However an input arrives, what is counted is what there is to be counted in it. -/
theorem ofReads_eq (reads : List Read) :
    Counts.ofReads reads =
      match (Input.ofReads reads).failure with
      | none => .ok (countsIn (Input.ofReads reads).data)
      | some failure => .error failure := by
  rw [Counts.ofReads, Read.feed_eq]
  cases (Input.ofReads reads).failure with
  | none => exact congrArg Except.ok (counts_ofBytes _)
  | some failure => rfl

/-- What is counted of an input.

However the input arrives, by whatever attempts of whatever length and however often it is
interrupted, there are as many lines as newlines, as many words as longest runs of bytes that are
not blank, and as many bytes as arrive; if reading fails in the end, so does counting. No number is
greater than that of the bytes. Counted in two pieces, an input has the lines, words and bytes of
both, less one word exactly if the first piece ends and the second one begins with a byte that is
not blank. -/
theorem ofReads_eq_countsIn (reads : List Read) :
    let input := Input.ofReads reads
    (Counts.ofReads reads =
        match input.failure with
        | none => .ok (countsIn input.data)
        | some failure => .error failure) ∧
      ((countsIn input.data).lines ≤ input.data.length ∧
        (countsIn input.data).words ≤ input.data.length) ∧
      ∀ first second, input.data = first ++ second →
        (countsIn input.data).add
            ⟨0, if endsInWord first && beginsInWord second then 1 else 0, 0⟩ =
          (countsIn first).add (countsIn second) := by
  intro input
  refine ⟨ofReads_eq reads, countsIn_le input.data, ?_⟩
  intro first second hdata
  rw [hdata]
  exact countsIn_append first second

end CommandShell.Wc
