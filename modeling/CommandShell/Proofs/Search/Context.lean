import CommandShell.Builtins.Grep
import CommandShell.Proofs.Job.Running
import CommandShell.Proofs.Stream.Pieces
import Mathlib.Data.List.Induction

/-!
# Lines shown with their context

What a search writes, said of each line by itself. A line is shown if it matches or if one of the
`after` lines before it does (`Search.IsShown`); a separator follows it if it is the last line of a
context that ran to its end, which is when the nearest match before it is exactly `after` lines
away (`Search.EndsContext`).

A search counts down the lines that are left of a context. What is left is determined by the last
match (`Search.remaining_run`), and so the count agrees with the description line by line
(`Search.select_eq`). The main theorem is `Search.runIn_search`.
-/

namespace CommandShell

namespace Search

variable {α : Type}

section Description

variable (isMatch : α → Bool) (after : Nat) (lines : List α)

/-- There is a line `i`, and it matches. -/
def matchesAt (i : Nat) : Bool :=
  lines[i]?.any isMatch

/-- Line `i` is shown: a line matches that is this one or at most `after` lines before it. -/
def IsShown (i : Nat) : Prop :=
  ∃ j ≤ i, i - j ≤ after ∧ matchesAt isMatch lines j

/-- A context ends with line `i`: it does not match, and the nearest match before it is exactly
`after` lines away. -/
def EndsContext (i : Nat) : Prop :=
  ¬matchesAt isMatch lines i ∧
    ∃ j < i, i - j = after ∧ matchesAt isMatch lines j ∧
      ∀ k < i, j < k → ¬matchesAt isMatch lines k

instance : DecidablePred (IsShown isMatch after lines) :=
  fun i => inferInstanceAs (Decidable (∃ j ≤ i, i - j ≤ after ∧ matchesAt isMatch lines j))

instance : DecidablePred (EndsContext isMatch after lines) :=
  fun i => inferInstanceAs (Decidable (¬matchesAt isMatch lines i ∧
    ∃ j < i, i - j = after ∧ matchesAt isMatch lines j ∧
      ∀ k < i, j < k → ¬matchesAt isMatch lines k))

/-- What is shown because of line `i`: the line, and a separator behind it. -/
def shownAt (i : Nat) (line : α) : List (Shown α) :=
  (if IsShown isMatch after lines i then [.line line] else []) ++
    if EndsContext isMatch after lines i then [.separator] else []

end Description

/-- What is written because of line `i`: the line with its label, and a separator behind it, which
has none. -/
def writtenAt (isMatch : List Char → Bool) (after : Nat) (name : Option String)
    (lines : List (List Char)) (i : Nat) (line : List Char) : Bytes :=
  (if IsShown isMatch after lines i then Utf8.encode (labelOf name ++ line ++ ['\n']) else []) ++
    if EndsContext isMatch after lines i then utf8 "------\n" else []

variable {isMatch : α → Bool} {after : Nat} {lines : List α}

/-! ## Matching lines -/

theorem lt_length_of_matchesAt {i : Nat} (h : matchesAt isMatch lines i = true) :
    i < lines.length := by
  by_contra hlength
  rw [matchesAt, List.getElem?_eq_none (Nat.le_of_not_lt hlength)] at h
  cases h

/-- Whether a line matches does not depend on the lines behind it. -/
theorem matchesAt_append {i : Nat} (h : i < lines.length) (others : List α) :
    matchesAt isMatch (lines ++ others) i = matchesAt isMatch lines i := by
  rw [matchesAt, matchesAt, List.getElem?_append_left h]

theorem matchesAt_length (line : α) :
    matchesAt isMatch (lines ++ [line]) lines.length = isMatch line := by
  rw [matchesAt, List.getElem?_concat_length]
  rfl

/-- A line that does not match changes nothing about where lines match. -/
theorem matchesAt_append_of_not_isMatch (lines : List α) {line : α} (h : isMatch line = false)
    (i : Nat) :
    matchesAt isMatch (lines ++ [line]) i = matchesAt isMatch lines i := by
  obtain hi | rfl | hi := Nat.lt_trichotomy i lines.length
  · exact matchesAt_append hi [line]
  · rw [matchesAt_length, h, matchesAt, List.getElem?_eq_none (Nat.le_refl _)]
    rfl
  · rw [matchesAt, matchesAt, List.getElem?_eq_none (Nat.le_of_lt hi),
      List.getElem?_eq_none (by rw [List.length_append, List.length_singleton]; omega)]

/-- What is shown because of a line does not depend on the lines behind it. -/
theorem shownAt_append {i : Nat} (h : i < lines.length) (others : List α) :
    shownAt isMatch after (lines ++ others) i = shownAt isMatch after lines i := by
  have hsame (j : Nat) (hj : j ≤ i) :
      matchesAt isMatch (lines ++ others) j = matchesAt isMatch lines j :=
    matchesAt_append (Nat.lt_of_le_of_lt hj h) others
  have hshown : IsShown isMatch after (lines ++ others) i ↔ IsShown isMatch after lines i :=
    exists_congr fun j => and_congr_right fun hj => by rw [hsame j hj]
  have hends :
      EndsContext isMatch after (lines ++ others) i ↔ EndsContext isMatch after lines i := by
    refine and_congr (by rw [hsame i (Nat.le_refl i)]) ?_
    refine exists_congr fun j => and_congr_right fun hj => and_congr_right fun _ => ?_
    rw [hsame j (Nat.le_of_lt hj)]
    refine and_congr_right fun _ => forall_congr' fun k => forall_congr' fun hk => ?_
    rw [hsame k (Nat.le_of_lt hk)]
  funext line
  simp only [shownAt, hshown, hends]

/-! ## What is left of a context -/

/-- The last line that matches is line `j`. -/
structure IsLastMatch (isMatch : α → Bool) (lines : List α) (j : Nat) : Prop where
  matchesAt : matchesAt isMatch lines j = true
  none_behind : ∀ k, j < k → Search.matchesAt isMatch lines k = false

/-- How many more lines belong to the context of the last match: none if there is no match. -/
def IsRemaining (isMatch : α → Bool) (after : Nat) (lines : List α) (remaining : Nat) : Prop :=
  (∀ i, matchesAt isMatch lines i = false) ∧ remaining = 0 ∨
    ∃ j, IsLastMatch isMatch lines j ∧ remaining = j + 1 + after - lines.length

namespace IsRemaining

variable {remaining : Nat} {line : α}

/-- After a match, all of its context is left. -/
theorem of_isMatch (h : isMatch line = true) :
    IsRemaining isMatch after (lines ++ [line]) after := by
  refine .inr ⟨lines.length, ⟨?_, fun k hk => ?_⟩, ?_⟩
  · rw [matchesAt_length, h]
  · rw [matchesAt, List.getElem?_eq_none]
    · rfl
    · rwa [List.length_append, List.length_singleton]
  · rw [List.length_append, List.length_singleton]
    omega

/-- Any other line uses up one line of the context. -/
theorem of_not_isMatch (hremaining : IsRemaining isMatch after lines remaining)
    (h : isMatch line = false) : IsRemaining isMatch after (lines ++ [line]) (remaining - 1) := by
  have hsame := matchesAt_append_of_not_isMatch lines h
  obtain ⟨hnone, rfl⟩ | ⟨j, hlast, rfl⟩ := hremaining
  · exact .inl ⟨fun i => (hsame i).trans (hnone i), rfl⟩
  · refine .inr ⟨j, ⟨?_, fun k hk => (hsame k).trans (hlast.none_behind k hk)⟩, ?_⟩
    · exact (hsame j).trans hlast.matchesAt
    · rw [List.length_append, List.length_singleton]
      omega

/-- A line that does not match is shown if something is left of a context. -/
theorem isShown_iff (hremaining : IsRemaining isMatch after lines remaining)
    (h : isMatch line = false) :
    IsShown isMatch after (lines ++ [line]) lines.length ↔ 0 < remaining := by
  have hsame := matchesAt_append_of_not_isMatch lines h
  simp only [IsShown, hsame]
  obtain ⟨hnone, rfl⟩ | ⟨j, hlast, rfl⟩ := hremaining
  · simp [hnone]
  · have hj := lt_length_of_matchesAt hlast.matchesAt
    constructor
    · -- The last match is at least as near as any other.
      rintro ⟨i, hi, hnear, hmatch⟩
      have hij : i ≤ j := by
        by_contra hji
        rw [hlast.none_behind i (Nat.lt_of_not_le hji)] at hmatch
        cases hmatch
      omega
    · intro hleft
      exact ⟨j, Nat.le_of_lt hj, by omega, hlast.matchesAt⟩

/-- A context ends with a line that does not match if that is the last line left of it. -/
theorem endsContext_iff (hremaining : IsRemaining isMatch after lines remaining)
    (h : isMatch line = false) :
    EndsContext isMatch after (lines ++ [line]) lines.length ↔ remaining = 1 := by
  have hsame := matchesAt_append_of_not_isMatch lines h
  have hline : matchesAt isMatch lines lines.length = false := by
    rw [← hsame, matchesAt_length, h]
  simp only [EndsContext, hsame, hline]
  obtain ⟨hnone, rfl⟩ | ⟨j, hlast, rfl⟩ := hremaining
  · simp [hnone]
  · have hj := lt_length_of_matchesAt hlast.matchesAt
    constructor
    · rintro ⟨-, i, hi, hexact, hmatch, hnearest⟩
      -- The nearest match is the last one.
      have hij : i = j := by
        obtain hij | rfl | hji := Nat.lt_trichotomy i j
        · exact absurd hlast.matchesAt (hnearest j hj hij)
        · rfl
        · rw [hlast.none_behind i hji] at hmatch
          cases hmatch
      omega
    · intro hone
      refine ⟨Bool.false_ne_true, j, hj, by omega, hlast.matchesAt, fun k _ hjk => ?_⟩
      rw [hlast.none_behind k hjk]
      exact Bool.false_ne_true

end IsRemaining

/-! ## The selection -/

namespace Selection

variable {line : α}

/-- What a line that does not match is shown as, by what is left of a context. -/
def shownWithin (line : α) : (remaining : Nat) → List (Shown α)
  | 0 => []
  | 1 => [.line line, .separator]
  | _ + 2 => [.line line]

theorem step_of_isMatch (h : isMatch line = true) (s : Selection α) :
    s.step isMatch after line = ⟨after, .line line :: s.shown⟩ := by
  rw [step, if_pos h]

theorem step_of_not_isMatch (h : isMatch line = false) (s : Selection α) :
    s.step isMatch after line =
      ⟨s.remaining - 1, (shownWithin line s.remaining).reverse ++ s.shown⟩ := by
  obtain ⟨remaining, shown⟩ := s
  rw [step, h, if_neg Bool.false_ne_true]
  match remaining with
  | 0 => rfl
  | 1 => rfl
  | _ + 2 => rfl

end Selection

theorem shownAt_of_isMatch {line : α} (h : isMatch line = true) :
    shownAt isMatch after (lines ++ [line]) lines.length line = [.line line] := by
  have hmatch : matchesAt isMatch (lines ++ [line]) lines.length = true := by
    rw [matchesAt_length, h]
  have hshown : IsShown isMatch after (lines ++ [line]) lines.length :=
    ⟨lines.length, Nat.le_refl _, by omega, hmatch⟩
  have hends : ¬EndsContext isMatch after (lines ++ [line]) lines.length :=
    fun hends => hends.1 hmatch
  rw [shownAt, if_pos hshown, if_neg hends, List.append_nil]

theorem shownAt_of_not_isMatch {line : α} {remaining : Nat}
    (hremaining : IsRemaining isMatch after lines remaining) (h : isMatch line = false) :
    shownAt isMatch after (lines ++ [line]) lines.length line =
      Selection.shownWithin line remaining := by
  simp only [shownAt, hremaining.isShown_iff h, hremaining.endsContext_iff h]
  match remaining with
  | 0 => rfl
  | 1 => rfl
  | _ + 2 => rfl

/-- What is shown of some lines according to the description. -/
def shownOf (isMatch : α → Bool) (after : Nat) (lines : List α) : List (Shown α) :=
  lines.zipIdx.flatMap fun (line, i) => shownAt isMatch after lines i line

/-- One more line adds what is shown because of it. -/
theorem shownOf_concat (line : α) :
    shownOf isMatch after (lines ++ [line]) =
      shownOf isMatch after lines ++ shownAt isMatch after (lines ++ [line]) lines.length line := by
  have hfirst : lines.zipIdx.flatMap (fun (line', i) =>
      shownAt isMatch after (lines ++ [line]) i line') = shownOf isMatch after lines := by
    refine List.flatMap_congr fun (line', i) hmem => ?_
    have hi : i < lines.length := by
      have hlength := List.snd_lt_of_mem_zipIdx hmem
      omega
    exact congrFun (shownAt_append hi [line]) line'
  rw [shownOf, List.zipIdx_append, List.flatMap_append, hfirst, List.zipIdx_singleton,
    List.flatMap_singleton, Nat.zero_add]

/-- A search up to some line has shown what the description says, and counts down what is left of
the context of the last match. -/
theorem run_eq (isMatch : α → Bool) (after : Nat) (lines : List α) :
    let s := Selection.start.run isMatch after lines
    IsRemaining isMatch after lines s.remaining ∧
      s.shown.reverse = shownOf isMatch after lines := by
  induction lines using List.reverseRecOn with
  | nil => exact ⟨.inl ⟨fun _ => rfl, rfl⟩, rfl⟩
  | append_singleton lines line ih =>
    obtain ⟨hremaining, hshown⟩ := ih
    dsimp only at hremaining hshown ⊢
    rw [Selection.run_append, shownOf_concat, ← hshown]
    generalize Selection.start.run isMatch after lines = s at hremaining
    change IsRemaining _ _ _ (s.step isMatch after line).remaining ∧
      (s.step isMatch after line).shown.reverse = _
    cases h : isMatch line with
    | true =>
      rw [Selection.step_of_isMatch h, shownAt_of_isMatch h]
      exact ⟨.of_isMatch h, List.reverse_cons⟩
    | false =>
      rw [Selection.step_of_not_isMatch h, shownAt_of_not_isMatch hremaining h]
      refine ⟨hremaining.of_not_isMatch h, ?_⟩
      rw [List.reverse_append, List.reverse_reverse]

/-- What is written for some lines according to the description. -/
def writtenOf (isMatch : List Char → Bool) (after : Nat) (name : Option String)
    (lines : List (List Char)) : Bytes :=
  lines.zipIdx.flatMap fun (line, i) => writtenAt isMatch after name lines i line

/-- A search writes for each line what the description says. -/
theorem report_eq (isMatch : List Char → Bool) (after : Nat) (name : Option String)
    (lines : List (List Char)) :
    report isMatch after name lines = writtenOf isMatch after name lines := by
  rw [report, select, (run_eq isMatch after lines).2, shownOf, List.flatMap_assoc, writtenOf]
  refine List.flatMap_congr fun (line, i) _ => ?_
  dsimp only
  rw [writtenAt, shownAt, List.flatMap_append]
  refine congrArg₂ (· ++ ·) ?_ ?_
  · split
    · exact List.flatMap_singleton _ _
    · rfl
  · split
    · exact List.flatMap_singleton _ _
    · rfl

/-! ## Searching an input -/

/-- A search of an input writes for each of its lines what the description says, and ends as reading
the input does.

The lines are what is between the newlines of the input, however it arrives, and are decoded one by
one. A line that is shown is written with its label and a newline, and a separator behind it where a
context ends; nothing else is written. So no separator stands behind a line that matches, none
within the context of the last match if that reaches beyond the last line, and none at all without
context. If reading fails, the lines are those that end in a newline, and the search ends with the
failure. -/
theorem runIn_search (pattern : Pattern) (after : Nat) (label : Option String) (reads : List Read)
    {c : Context} (hc : c.out.room = none) :
    let input := Input.ofReads reads
    let lines := input.splitLines.map Utf8.decode
    let ran := (Grep.search pattern after label input).runIn c
    ran.1 = Job.stopped input.failure ∧ ran.2 = { c with out := ran.2.out } ∧
      ran.2.out.contents =
        c.out.contents ++ writtenOf pattern.isMatch after label lines ∧
      (∀ i, matchesAt pattern.isMatch lines i →
        IsShown pattern.isMatch after lines i ∧ ¬EndsContext pattern.isMatch after lines i) ∧
      (∀ j, IsLastMatch pattern.isMatch lines j → lines.length ≤ j + after →
        ∀ i, j ≤ i → i < lines.length →
          IsShown pattern.isMatch after lines i ∧ ¬EndsContext pattern.isMatch after lines i) ∧
      (after = 0 → ∀ i, ¬EndsContext pattern.isMatch after lines i) := by
  intro input lines ran
  have hran : ran = (Job.stopped input.failure,
      { c with out := (c.out.write (output pattern after label input)).1 }) := by
    change (Grep.search pattern after label input).runIn c = _
    rw [Grep.search, Job.runIn_bind, Job.runIn_print, Output.write_failure_of_room_none hc]
    exact Job.runIn_stopOn _ _
  have houtput : output pattern after label input =
      writtenOf pattern.isMatch after label lines := by
    rw [output, report_eq, Input.lines_eq_splitLines]
  rw [hran]
  refine ⟨rfl, rfl, ?_, ?_, ?_, ?_⟩
  · rw [← houtput]
    exact Output.contents_write_of_room_none hc _
  · intro i hmatch
    exact ⟨⟨i, Nat.le_refl i, by omega, hmatch⟩, fun hends => hends.1 hmatch⟩
  · rintro j hlast hend i hji hi
    refine ⟨⟨j, hji, by omega, hlast.matchesAt⟩, ?_⟩
    rintro ⟨hmatch, k, hk, hexact, hk', hnearest⟩
    -- The context that would end is that of the last match, and is longer than that.
    obtain rfl | hji := Nat.eq_or_lt_of_le hji
    · exact hmatch hlast.matchesAt
    · obtain hkj | rfl | hjk := Nat.lt_trichotomy k j
      · exact hnearest j hji hkj hlast.matchesAt
      · omega
      · rw [hlast.none_behind k hjk] at hk'
        cases hk'
  · rintro rfl i ⟨-, j, hj, hexact, -⟩
    omega

/-- A context that is started anew, one that runs to its end and one that is cut short by a failure,
behind which half a line is lost. -/
theorem search_restarts_and_ends_contexts :
    let pattern : Pattern := ⟨"a", fun line => line.contains 'a'⟩
    let reads : List Read :=
      [.bytes (utf8 "a\nx"), .interrupted, .bytes (utf8 "\na\ny\nz\nw\na\nlos"), .failed .closed]
    let c : Context := ⟨⟨[], []⟩, .absent, .empty, .unlimited, .unlimited, none, Pattern.compile⟩
    let ran := (Grep.search pattern 2 (some "f") (Input.ofReads reads)).runIn c
    c.out.room = none ∧ ran.1 = .error (.io .closed) ∧
      ran.2.out.contents = utf8 "f:a\nf:x\nf:a\nf:y\nf:z\n------\nf:a\n" := by
  intro pattern reads c ran
  have hc : c.out.room = none := rfl
  obtain ⟨hresult, -, hout, -⟩ := runIn_search pattern 2 (some "f") reads hc
  have hwritten :
      writtenOf pattern.isMatch 2 (some "f") ((Input.ofReads reads).splitLines.map Utf8.decode) =
        utf8 "f:a\nf:x\nf:a\nf:y\nf:z\n------\nf:a\n" := by
    dsimp only [pattern, reads]
    decide +kernel
  exact ⟨hc, hresult, hout.trans hwritten⟩

end Search

end CommandShell
