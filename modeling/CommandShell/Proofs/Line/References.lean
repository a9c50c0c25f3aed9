import CommandShell.Line.Expansion
import CommandShell.Proofs.Line.Splitting

/-!
# References read ahead

Expansion goes over a token with a loop that knows the open quote and takes a name as soon as it
meets the `$` in front of it. What the loop does is settled by the pieces of the token, characters
and references, which can be told from the state in which the text begins (`piecesFrom`): the loop
does with each piece in turn what it is given to do (`scanFrom_eq_foldl`). This is the form in which
expansion can be followed by induction on the token (`expand_eq_expandFrom`).

Expansion leaves every quote where it is: the text that stands for a value ends at quotes where it
began, so the expansion of a text opens and closes exactly the quotes of the text
(`run_expandFrom`). No value can open a quote or close one.
-/

namespace CommandShell.Line

/-- A `$` in this state may begin a reference. -/
def Quoting.admits : Quoting → Bool
  | .bare | .double => true
  | .single | .escape => false

/-- A part of a token: a character that stays, or a reference to a variable. -/
inductive Piece where
  /-- A character kept as it is written. -/
  | char (c : Char)
  /-- A reference to the variable `name`, inside quotes if `quoted`. -/
  | reference (name : List Char) (quoted : Bool)
  deriving DecidableEq, Repr

/-- The text that replaces a piece. -/
def Piece.text (env : Environment) : Piece → List Char
  | .char c => [c]
  | .reference name quoted => guardedValue quoted (env.get (String.ofList name)).toList

/-- The pieces of a text that begins in state `q`, where the first `passed` characters belong to a
name that has been taken already. -/
def piecesFrom : (q : Quoting) → (passed : Nat) → List Char → List Piece
  | _, _, [] => []
  | q, passed + 1, _ :: rest => piecesFrom q passed rest
  | q, 0, c :: rest =>
    if c = '$' ∧ q.admits = true ∧ nameAfter rest ≠ [] then
      .reference (nameAfter rest) (q != .bare) :: piecesFrom q (nameAfter rest).length rest
    else .char c :: piecesFrom (q.step c) 0 rest

/-- The expansion of a text that begins in state `q`. -/
def expandFrom (env : Environment) (q : Quoting) (passed : Nat) (cs : List Char) : List Char :=
  (piecesFrom q passed cs).flatMap (Piece.text env)

/-! ## The loop goes over these pieces -/

namespace Quoting

/-- The states that admit references keep a `$` and the characters of names within them. -/
theorem step_of_admits {q : Quoting} (h : q.admits = true) {c : Char}
    (hc : c = '$' ∨ c = '?' ∨ Text.isNameChar c = true) : q.step c = q := by
  have hne : c ≠ '\'' ∧ c ≠ '"' ∧ c ≠ '\\' := by
    refine ⟨?_, ?_, ?_⟩ <;> (rintro rfl; revert hc; decide)
  cases q with
  | bare => exact step_bare_of_ne hne.1 hne.2.1
  | double => simp [step, hne.2.1, hne.2.2]
  | single => cases h
  | escape => cases h

theorem run_of_admits {q : Quoting} (h : q.admits = true) {cs : List Char}
    (hcs : ∀ c ∈ cs, c = '?' ∨ Text.isNameChar c = true) : q.run cs = q := by
  induction cs with
  | nil => rfl
  | cons c cs ih =>
    rw [run_cons, step_of_admits h (.inr (hcs c List.mem_cons_self))]
    exact ih fun d hd => hcs d (List.mem_cons_of_mem c hd)

end Quoting

/-- A name consists of characters of names, or is `?`. -/
theorem mem_nameAfter {cs : List Char} {c : Char} (h : c ∈ nameAfter cs) :
    c = '?' ∨ Text.isNameChar c = true := by
  unfold nameAfter at h
  split at h
  · exact absurd h List.not_mem_nil
  · split_ifs at h with hq hstart
    · exact .inl (List.mem_singleton.mp h)
    · rcases List.mem_cons.mp h with rfl | hmem
      · exact .inr (Text.isNameChar_of_isNameStart hstart)
      · exact .inr (List.mem_takeWhile_imp hmem)
    · exact absurd h List.not_mem_nil

/-- The name after a `$` is what the text begins with. -/
theorem take_length_nameAfter (cs : List Char) :
    cs.take (nameAfter cs).length = nameAfter cs := by
  cases cs with
  | nil => rfl
  | cons c rest =>
    rw [nameAfter]
    split_ifs with hq hstart
    · simp [hq]
    · rw [List.length_cons, List.take_succ_cons,
        ← List.prefix_iff_eq_take.mp (List.takeWhile_prefix _)]
    · rfl

/-- A text that does not go on with a name does not change the name before it. -/
theorem nameAfter_append (as : List Char) {bs : List Char}
    (h : ∀ c ∈ bs.head?, c ≠ '?' ∧ Text.isNameChar c = false) :
    nameAfter (as ++ bs) = nameAfter as := by
  cases as with
  | nil =>
    cases bs with
    | nil => rfl
    | cons b bs =>
      obtain ⟨hquestion, hchar⟩ := h b rfl
      have hstart : Text.isNameStart b = false := by
        by_contra hstart
        rw [Text.isNameChar_of_isNameStart (by simpa using hstart)] at hchar
        cases hchar
      change nameAfter (b :: bs) = []
      rw [nameAfter, if_neg hquestion, hstart]
      rfl
  | cons a as =>
    have htake : (as ++ bs).takeWhile Text.isNameChar = as.takeWhile Text.isNameChar := by
      induction as with
      | nil =>
        cases bs with
        | nil => rfl
        | cons b bs => exact List.takeWhile_cons_of_neg (by simp [(h b rfl).2])
      | cons a as ih => rw [List.cons_append, List.takeWhile_cons, List.takeWhile_cons, ih]
    rw [List.cons_append, nameAfter, nameAfter, htake]

/-- Passing over a name changes nothing about quotes. -/
theorem Quoting.run_drop_nameAfter {q : Quoting} (h : q.admits = true) (cs : List Char) :
    q.run (cs.drop (nameAfter cs).length) = q.run cs := by
  have hname : q.run (cs.take (nameAfter cs).length) = q := by
    rw [take_length_nameAfter]
    exact run_of_admits h fun c hc => mem_nameAfter hc
  have hsplit := run_append q (cs.take (nameAfter cs).length) (cs.drop (nameAfter cs).length)
  rw [List.take_append_drop, hname] at hsplit
  exact hsplit.symm

section Scan

variable {σ : Type} (onChar : σ → Char → σ) (onReference : σ → List Char → Bool → σ)

/-- What the loop does with a piece. -/
def Piece.act (out : σ) : Piece → σ
  | .char c => onChar out c
  | .reference name quoted => onReference out name quoted

/-- Go over a text that begins in state `q`, with the loop for that state. -/
def scanFrom (q : Quoting) (passed : Nat) (out : σ) (cs : List Char) : σ :=
  match q with
  | .bare => scan onChar onReference none passed out cs
  | .single => scan onChar onReference (some '\'') passed out cs
  | .double => scan onChar onReference (some '"') passed out cs
  | .escape => scanEscape onChar onReference (some '"') out cs

/-- Where nothing is a reference, the loop does with a character what it does with any, and goes on
with the loop for the state behind it. -/
theorem scanFrom_cons_of_not_reference (q : Quoting) (out : σ) {c : Char} {rest : List Char}
    (h : ¬(c = '$' ∧ q.admits = true ∧ nameAfter rest ≠ [])) :
    scanFrom onChar onReference q 0 out (c :: rest) =
      scanFrom onChar onReference (q.step c) 0 (onChar out c) rest := by
  have hname (hadmits : q.admits = true) (hdollar : c = '$') : nameAfter rest = [] :=
    Decidable.byContradiction fun hname => h ⟨hdollar, hadmits, hname⟩
  -- Each loop makes its tests in the order of its own branches.
  cases q with
  | escape => rw [scanFrom, scanEscape, Quoting.step, scanFrom]
  | single =>
    rw [scanFrom, scan, Quoting.step]
    by_cases hsingle : c = '\'' <;> simp [hsingle, scanFrom]
  | bare =>
    rw [scanFrom, scan, Quoting.step]
    by_cases hsingle : c = '\''
    · simp [hsingle, scanFrom]
    by_cases hdouble : c = '"'
    · simp [hdouble, scanFrom]
    by_cases hdollar : c = '$'
    · simp [hdollar, hname rfl hdollar, scanFrom]
    · simp [hsingle, hdouble, hdollar, scanFrom]
  | double =>
    rw [scanFrom, scan, Quoting.step]
    by_cases hdouble : c = '"'
    · simp [hdouble, scanFrom]
    by_cases hescape : c = '\\'
    · simp [hescape, scanFrom]
    by_cases hdollar : c = '$'
    · simp [hdollar, hname rfl hdollar, scanFrom]
    · simp [hdouble, hescape, hdollar, scanFrom]

/-- At a reference the loop takes the whole name, which stays to be passed over. -/
theorem scanFrom_cons_of_reference {q : Quoting} (hq : q.admits = true) (out : σ)
    {rest : List Char} (hname : nameAfter rest ≠ []) :
    scanFrom onChar onReference q 0 out ('$' :: rest) =
      scanFrom onChar onReference q (nameAfter rest).length
        (onReference out (nameAfter rest) (q != .bare)) rest := by
  cases q with
  | bare => simp [scanFrom, scan, hname]
  | double =>
    have hquoted : (Quoting.double != .bare) = true := rfl
    simp [scanFrom, scan, hname, hquoted]
  | single => cases hq
  | escape => cases hq

theorem scanFrom_succ {q : Quoting} (hq : q.admits = true) (passed : Nat) (out : σ) (c : Char)
    (rest : List Char) :
    scanFrom onChar onReference q (passed + 1) out (c :: rest) =
      scanFrom onChar onReference q passed out rest := by
  cases q with
  | bare => rw [scanFrom, scan, scanFrom]
  | double => rw [scanFrom, scan, scanFrom]
  | single => cases hq
  | escape => cases hq

/-- The loop goes over the pieces one after the other. -/
theorem scanFrom_eq_foldl (q : Quoting) {passed : Nat} (hpassed : passed = 0 ∨ q.admits = true)
    (out : σ) (cs : List Char) :
    scanFrom onChar onReference q passed out cs =
      (piecesFrom q passed cs).foldl (Piece.act onChar onReference) out := by
  induction cs generalizing q passed out with
  | nil => cases q <;> rfl
  | cons c rest ih =>
    cases passed with
    | succ passed =>
      have hq : q.admits = true := hpassed.resolve_left (Nat.succ_ne_zero passed)
      rw [scanFrom_succ onChar onReference hq]
      exact ih q (.inr hq) out
    | zero =>
      rw [piecesFrom]
      split_ifs with href
      · obtain ⟨rfl, hq, hname⟩ := href
        rw [scanFrom_cons_of_reference onChar onReference hq out hname]
        exact ih q (.inr hq) _
      · rw [scanFrom_cons_of_not_reference onChar onReference q out href]
        exact ih (q.step c) (.inl rfl) _

end Scan

/-- Go on with the expansion of a text, in state `q` and with `out` in front. -/
def resumeExpansion (env : Environment) (q : Quoting) (out rest : List Char) : List Char :=
  (scanFrom (fun out c => c :: out) (insertValue env) q 0 out rest).reverse

/-- What the loop adds to a text is the expansion of what is left. -/
theorem resumeExpansion_eq (env : Environment) (q : Quoting) (out rest : List Char) :
    resumeExpansion env q out rest = out.reverse ++ expandFrom env q 0 rest := by
  have hpieces (pieces : List Piece) (out : List Char) :
      (pieces.foldl (Piece.act (fun out c => c :: out) (insertValue env)) out).reverse =
        out.reverse ++ pieces.flatMap (Piece.text env) := by
    induction pieces generalizing out with
    | nil => simp
    | cons piece pieces ih =>
      rw [List.foldl_cons, ih, List.flatMap_cons, ← List.append_assoc]
      cases piece <;> simp [Piece.act, Piece.text, insertValue, List.reverseAux_eq]
  rw [resumeExpansion, scanFrom_eq_foldl _ _ q (.inl rfl), hpieces, expandFrom]

/-- A token expands to the texts of its pieces. -/
theorem expand_eq_expandFrom (env : Environment) (token : Token) :
    expand env token = expandFrom env .bare 0 token :=
  resumeExpansion_eq env .bare [] token

/-! ## Expansion keeps quotes -/

namespace Quoting

/-- The characters that stand for one of a value end at quotes where they began. -/
theorem run_guarded {q : Quoting} (h : q.admits = true) (c : Char) :
    q.run (guarded (q != .bare) c) = q := by
  cases q with
  | single => cases h
  | escape => cases h
  | bare =>
    simp only [guarded, bne_self_eq_false, Bool.false_eq_true, if_false]
    split_ifs with hs hd
    · rfl
    · rfl
    · exact step_bare_of_ne hs hd
  | double =>
    -- Inside double quotes a backslash is put before what would end them or begin something.
    have hquoted : (double != bare) = true := rfl
    simp only [guarded, hquoted, if_true]
    split_ifs with hc
    · rfl
    · simp only [not_or] at hc
      simp [step, hc.1, hc.2.1]

theorem run_guardedValue {q : Quoting} (h : q.admits = true) (value : List Char) :
    q.run (guardedValue (q != .bare) value) = q := by
  induction value with
  | nil => rfl
  | cons c value ih =>
    rw [guardedValue, List.flatMap_cons, run_append, run_guarded h]
    exact ih

end Quoting

/-- The expansion of a text opens and closes the quotes that the text does. -/
theorem run_expandFrom (env : Environment) (q : Quoting) (passed : Nat) (cs : List Char) :
    q.run (expandFrom env q passed cs) = q.run (cs.drop passed) := by
  induction cs generalizing q passed with
  | nil => simp [expandFrom, piecesFrom]
  | cons c rest ih =>
    cases passed with
    | succ passed => exact ih q passed
    | zero =>
      rw [expandFrom, piecesFrom]
      split_ifs with h
      · -- The name is passed over without a quote in it, and so is the value that replaces it.
        obtain ⟨rfl, hq, -⟩ := h
        rw [List.flatMap_cons, Quoting.run_append, Piece.text, Quoting.run_guardedValue hq,
          List.drop_zero, Quoting.run_cons, Quoting.step_of_admits hq (.inl rfl),
          ← Quoting.run_drop_nameAfter hq rest]
        exact ih q _
      · rw [List.flatMap_cons, Quoting.run_append, List.drop_zero, Quoting.run_cons]
        exact ih (q.step c) 0

/-- No value opens a quote or closes one. -/
theorem isClosed_expand_iff (env : Environment) (token : Token) :
    IsClosed (expand env token) ↔ IsClosed token := by
  rw [IsClosed, expand_eq_expandFrom, run_expandFrom, List.drop_zero, IsClosed]

end CommandShell.Line
