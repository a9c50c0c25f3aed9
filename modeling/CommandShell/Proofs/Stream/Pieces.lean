import CommandShell.Stream.Arrival
import Mathlib.Data.List.Forall2

/-!
# Inputs cut into pieces

Bytes are cut behind each newline, into pieces that make up the bytes again; only the last piece
may lack a newline (`Input.cutBehind`). The lines of an input are these pieces without their
newlines (`Input.forall₂_pieces_lines`), and they are what is between the newlines
(`Input.lines_eq_splitLines`). If reading fails, the pieces are those that end in a newline, since
a line that has only begun is lost.
-/

namespace CommandShell.Input

/-- Bytes cut behind each newline. -/
def cutBehind : Bytes → List Bytes
  | [] => []
  | b :: rest =>
    if b = newline then [b] :: cutBehind rest
    else
      match cutBehind rest with
      | [] => [[b]]
      | piece :: others => (b :: piece) :: others

/-- The pieces of an input that are lines: all of them if the input ends, and those that end in a
newline if reading fails. -/
def pieces (input : Input) : List Bytes :=
  if input.failure.isSome then
    (cutBehind input.data).filter fun piece => piece.getLast? = some newline
  else cutBehind input.data

/-- The bytes cut at each newline. A part behind the last newline is a line too if there is
something in it, unless reading fails there. -/
def splitLines (input : Input) : List Bytes :=
  let parts := input.data.splitOn newline
  parts.dropLast ++
    parts.getLast?.toList.filter fun last => input.failure.isNone && !last.isEmpty

/-! ## Cutting -/

/-- The pieces make up the bytes. -/
theorem flatten_cutBehind (data : Bytes) : (cutBehind data).flatten = data := by
  fun_induction cutBehind data with
  | case1 => rfl
  | case2 rest ih => rw [List.flatten_cons, ih, List.singleton_append]
  | case3 b rest _ hrest ih =>
    rw [hrest] at ih
    rw [← ih]
    rfl
  | case4 b rest _ piece others hrest ih =>
    rw [hrest] at ih
    rw [← ih]
    rfl

/-- A first line is cut off behind its newline. -/
theorem cutBehind_append_newline {line : Bytes} (hline : newline ∉ line) (rest : Bytes) :
    cutBehind (line ++ newline :: rest) = (line ++ [newline]) :: cutBehind rest := by
  induction line with
  | nil => rw [List.nil_append, cutBehind, if_pos rfl, List.nil_append]
  | cons b line ih =>
    obtain ⟨hb, hline'⟩ := not_or.mp (mt List.mem_cons.mpr hline)
    rw [List.cons_append, cutBehind, if_neg (Ne.symm hb), ih hline']
    rfl

/-- Bytes without a newline are a single piece. -/
theorem cutBehind_of_not_mem {line : Bytes} (hline : newline ∉ line) :
    cutBehind line = if line.isEmpty then [] else [line] := by
  induction line with
  | nil => rfl
  | cons b line ih =>
    obtain ⟨hb, hline'⟩ := not_or.mp (mt List.mem_cons.mpr hline)
    rw [cutBehind, if_neg (Ne.symm hb), ih hline']
    cases line <;> rfl

/-- Bytes that end in a newline are cut apart from what follows them. -/
theorem cutBehind_append (first rest : Bytes) :
    cutBehind (first ++ newline :: rest) =
      cutBehind (first ++ [newline]) ++ cutBehind rest := by
  induction first with
  | nil => rw [List.nil_append, cutBehind, if_pos rfl]; rfl
  | cons b first ih =>
    rw [List.cons_append, List.cons_append, cutBehind, cutBehind, ih]
    split
    · rfl
    · cases hfirst : cutBehind (first ++ [newline]) with
      | nil =>
        have hflat := flatten_cutBehind (first ++ [newline])
        rw [hfirst] at hflat
        simp at hflat
      | cons piece others => rfl

/-! ## Lines -/

/-- What has been cut already is what would be cut behind each newline, without the newlines; bytes
that belong to no complete line yet have none. -/
theorem cutBehind_foldl (data : Bytes) (begun : Cut) (hbegun : newline ∉ begun.unfinished) :
    let cut := data.foldl Cut.step begun
    newline ∉ cut.unfinished ∧
      begun.lines.reverse.map (· ++ [newline]) ++ cutBehind (begun.unfinished.reverse ++ data) =
        cut.lines.reverse.map (· ++ [newline]) ++
          if cut.unfinished.isEmpty then [] else [cut.unfinished.reverse] := by
  -- What has begun is cut together with the bytes that are still to come.
  induction data generalizing begun with
  | nil =>
    refine ⟨hbegun, ?_⟩
    rw [List.append_nil, cutBehind_of_not_mem (by simpa using hbegun)]
    simp
  | cons b data ih =>
    obtain ⟨lines, unfinished⟩ := begun
    by_cases hb : b = newline
    · subst hb
      obtain ⟨hleft, hcut⟩ := ih ⟨unfinished.reverse :: lines, []⟩ List.not_mem_nil
      have hstep : Cut.step ⟨lines, unfinished⟩ newline = ⟨unfinished.reverse :: lines, []⟩ := rfl
      rw [List.foldl_cons, hstep]
      refine ⟨hleft, ?_⟩
      rw [← hcut, cutBehind_append_newline (by simpa using hbegun)]
      simp
    · obtain ⟨hleft, hcut⟩ := ih ⟨lines, b :: unfinished⟩
        (List.not_mem_cons_of_ne_of_not_mem (Ne.symm hb) hbegun)
      have hstep : Cut.step ⟨lines, unfinished⟩ b = ⟨lines, b :: unfinished⟩ := by
        simp [Cut.step, hb]
      rw [List.foldl_cons, hstep]
      refine ⟨hleft, ?_⟩
      rw [← hcut]
      simp

/-- Cutting bytes at their newlines and behind them finds the same lines. -/
theorem cutBehind_eq (data : Bytes) :
    newline ∉ (cut data).unfinished ∧
      cutBehind data = (cut data).lines.reverse.map (· ++ [newline]) ++
        if (cut data).unfinished.isEmpty then [] else [(cut data).unfinished.reverse] :=
  cutBehind_foldl data ⟨[], []⟩ List.not_mem_nil

/-- Bytes without a newline all belong to the unfinished line. -/
theorem foldl_step_of_not_mem {line : Bytes} (hline : newline ∉ line) (begun : Cut) :
    line.foldl Cut.step begun = ⟨begun.lines, line.reverse ++ begun.unfinished⟩ := by
  induction line generalizing begun with
  | nil => rfl
  | cons b line ih =>
    obtain ⟨hb, hline'⟩ := not_or.mp (mt List.mem_cons.mpr hline)
    have hstep : begun.step b = ⟨begun.lines, b :: begun.unfinished⟩ :=
      if_neg (by simpa using Ne.symm hb)
    rw [List.foldl_cons, hstep, ih hline', List.reverse_cons, List.append_assoc]
    rfl

/-- Bytes without a newline are a single line, if there are any. -/
theorem lines_ofBytes_of_not_mem {line : Bytes} (hline : newline ∉ line) :
    (ofBytes line).lines = if line.isEmpty then [] else [line] := by
  rw [lines, ofBytes, cut, foldl_step_of_not_mem hline]
  simp

/-- A line with its newline is a single line, also if it is empty. -/
theorem lines_ofBytes_append_newline {line : Bytes} (hline : newline ∉ line) :
    (ofBytes (line ++ [newline])).lines = [line] := by
  rw [lines, ofBytes, cut, List.foldl_append, foldl_step_of_not_mem hline, List.foldl_cons,
    List.foldl_nil, Cut.step, if_pos (beq_self_eq_true newline)]
  simp

/-- What has been cut already is what would be split at each newline. -/
theorem splitOn_foldl (data : Bytes) (begun : Cut) (hbegun : newline ∉ begun.unfinished) :
    let cut := data.foldl Cut.step begun
    begun.lines.reverse ++ (begun.unfinished.reverse ++ data).splitOn newline =
      cut.lines.reverse ++ [cut.unfinished.reverse] := by
  induction data generalizing begun with
  | nil =>
    rw [List.append_nil, List.splitOn_eq_singleton (by simpa using hbegun)]
    rfl
  | cons b data ih =>
    rw [List.foldl_cons]
    by_cases hb : b = newline
    · subst hb
      have hrest := ih ⟨begun.unfinished.reverse :: begun.lines, []⟩ List.not_mem_nil
      rw [List.splitOn_append_cons_self, List.splitOn_eq_singleton (by simpa using hbegun)]
      rw [List.reverse_cons, List.append_assoc] at hrest
      exact hrest
    · have hstep : begun.step b = ⟨begun.lines, b :: begun.unfinished⟩ := by simp [Cut.step, hb]
      have hrest := ih ⟨begun.lines, b :: begun.unfinished⟩
        (List.not_mem_cons_of_ne_of_not_mem (Ne.symm hb) hbegun)
      rw [hstep]
      simpa using hrest

/-- The lines of an input are what is between its newlines. -/
theorem lines_eq_splitLines (input : Input) : input.lines = input.splitLines := by
  have hsplit : input.data.splitOn newline =
      (cut input.data).lines.reverse ++ [(cut input.data).unfinished.reverse] :=
    splitOn_foldl input.data ⟨[], []⟩ List.not_mem_nil
  rw [splitLines, hsplit, lines, List.dropLast_concat, List.getLast?_concat]
  cases input.failure <;> cases (cut input.data).unfinished <;> simp

/-- The pieces of an input are its lines, those that are complete with their newlines. -/
theorem forall₂_pieces_lines (input : Input) :
    List.Forall₂ (fun piece line => piece = line ∨ piece = line ++ [newline]) input.pieces
      input.lines := by
  obtain ⟨hleft, hcut⟩ := cutBehind_eq input.data
  have hcomplete : List.Forall₂ (fun piece line : Bytes => piece = line ∨ piece = line ++ [newline])
      ((cut input.data).lines.reverse.map (· ++ [newline])) (cut input.data).lines.reverse :=
    List.forall₂_map_left_iff.mpr (List.forall₂_same.mpr fun _ _ => .inr rfl)
  rw [pieces, lines, hcut]
  cases input.failure with
  | none =>
    rw [Option.isSome_none, if_neg Bool.false_ne_true, Bool.or_false]
    refine List.rel_append hcomplete ?_
    split
    · exact .nil
    · exact .cons (.inl rfl) .nil
  | some failure =>
    -- The complete lines end in a newline, and what is left behind them has none.
    have hlost : (if (cut input.data).unfinished.isEmpty then []
        else [(cut input.data).unfinished.reverse]).filter
          (fun piece : Bytes => piece.getLast? = some newline) = [] := by
      split
      · rfl
      · refine List.filter_cons_of_neg ?_
        intro hlast
        exact hleft (List.mem_reverse.mp (List.mem_of_getLast? (of_decide_eq_true hlast)))
    rw [Option.isSome_some, if_pos rfl, Bool.or_true, if_pos rfl, List.append_nil,
      List.filter_append, hlost, List.append_nil, List.filter_eq_self.mpr]
    · exact hcomplete
    · simp

/-- Bytes that end in a newline are pieces of an input on their own. -/
theorem pieces_prepend (first : Bytes) (rest : Input) :
    (rest.prepend (first ++ [newline])).pieces = cutBehind (first ++ [newline]) ++ rest.pieces := by
  have hcut : cutBehind (first ++ [newline] ++ rest.data) =
      cutBehind (first ++ [newline]) ++ cutBehind rest.data := by
    rw [List.append_assoc]
    exact cutBehind_append first rest.data
  have hcomplete : ∀ piece ∈ cutBehind (first ++ [newline]), piece.getLast? = some newline := by
    have hunfinished : (cut (first ++ [newline])).unfinished = [] := by
      rw [cut, List.foldl_append]
      rfl
    rw [(cutBehind_eq (first ++ [newline])).2, hunfinished]
    simp
  rw [pieces, pieces, prepend]
  dsimp only
  rw [hcut]
  split
  · rw [List.filter_append, List.filter_eq_self.mpr]
    simpa using hcomplete
  · rfl

end CommandShell.Input
